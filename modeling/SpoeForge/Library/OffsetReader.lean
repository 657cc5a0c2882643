import SpoeForge.Library.Fallible
import Mathlib.Data.List.Forall2

/-!
# Decoders that read a buffer from an offset

A decoder takes a buffer and an offset and gives a value with the offset after
it. This module states what it is for such a decoder to read an encoding back
wherever it stands, to move forward inside the buffer, and to fail only in given
ways, how these compose, and the loop that reads items until a stop offset.
-/

namespace OffsetReader

open Fallible

variable {β ε α γ : Type}

/-- Reads `buf` from `off`; gives a value and the offset after it. -/
abbrev Decoder (β ε α : Type) := List β → ℕ → Except ε (α × ℕ)

/-! ### A piece of a buffer at an offset -/

/-- `bs` stands in `buf` at offset `off`. -/
def At (buf : List β) (off : ℕ) (bs : List β) : Prop :=
  ∃ pre post, buf = pre ++ bs ++ post ∧ pre.length = off

theorem at_intro (pre bs post : List β) : At (pre ++ bs ++ post) pre.length bs :=
  ⟨pre, post, rfl, rfl⟩

theorem at_append {buf : List β} {off : ℕ} {x y : List β} :
    At buf off (x ++ y) ↔ At buf off x ∧ At buf (off + x.length) y := by
  constructor
  · rintro ⟨pre, post, rfl, rfl⟩
    exact ⟨⟨pre, y ++ post, by simp, rfl⟩, ⟨pre ++ x, post, by simp, by simp⟩⟩
  · rintro ⟨⟨pre, post, rfl, rfl⟩, ⟨pre', post', h, hlen⟩⟩
    have heq : (pre ++ x) ++ post = pre' ++ (y ++ post') := by simpa using h
    have hp : pre ++ x = pre' := List.append_inj_left heq (by simp [hlen])
    have hpost : post = y ++ post' := by
      subst hp
      simpa using h
    exact ⟨pre, post', by simp [hpost], rfl⟩

theorem at_append_of {buf : List β} {off : ℕ} (x : List β) {y : List β}
    (h : At buf off (x ++ y)) : At buf off x ∧ At buf (off + x.length) y := at_append.mp h

theorem At.drop {buf : List β} {off : ℕ} {bs : List β} (h : At buf off bs) :
    ∃ post, buf.drop off = bs ++ post := by
  obtain ⟨pre, post, rfl, rfl⟩ := h
  exact ⟨post, by simp⟩

theorem At.length_le {buf : List β} {off : ℕ} {bs : List β} (h : At buf off bs) :
    off + bs.length ≤ buf.length := by
  obtain ⟨pre, post, rfl, rfl⟩ := h
  simp only [List.length_append]
  omega

theorem At.slice {buf : List β} {off : ℕ} {bs : List β} (h : At buf off bs) :
    (buf.drop off).take bs.length = bs := by
  obtain ⟨post, hd⟩ := h.drop
  rw [hd]
  simp

theorem At.getElem? {buf : List β} {off : ℕ} {b : β} (h : At buf off [b]) :
    buf[off]? = some b := by
  obtain ⟨pre, post, rfl, rfl⟩ := h
  simp

theorem at_singleton {buf : List β} {off : ℕ} {b : β} : At buf off [b] ↔ buf[off]? = some b := by
  constructor
  · exact At.getElem?
  · intro h
    obtain ⟨hlt, hget⟩ := List.getElem?_eq_some_iff.mp h
    refine ⟨buf.take off, buf.drop (off + 1), ?_, by simp [Nat.le_of_lt hlt]⟩
    rw [← hget, List.append_assoc, List.singleton_append, List.getElem_cons_drop,
      List.take_append_drop]

theorem at_cons {buf : List β} {off : ℕ} {b : β} {bs : List β} :
    At buf off (b :: bs) ↔ buf[off]? = some b ∧ At buf (off + 1) bs := by
  rw [← List.singleton_append, at_append, at_singleton, List.length_singleton]

theorem at_slice {buf : List β} {off n : ℕ} (h : off + n ≤ buf.length) :
    At buf off ((buf.drop off).take n) := by
  refine ⟨buf.take off, (buf.drop off).drop n, ?_, ?_⟩
  · rw [List.append_assoc, List.take_append_drop, List.take_append_drop]
  · rw [List.length_take]
    omega

theorem at_nil {buf : List β} {off : ℕ} (h : off ≤ buf.length) : At buf off [] :=
  ⟨buf.take off, buf.drop off, by simp, by simp [h]⟩

theorem At.congr {buf buf' : List β} {off : ℕ} {bs : List β} (h : At buf off bs)
    (hoff : off ≤ buf'.length)
    (heq : ∀ i, off ≤ i → i < off + bs.length → buf'[i]? = buf[i]?) : At buf' off bs := by
  induction bs generalizing off with
  | nil => exact at_nil hoff
  | cons b bs ih =>
    obtain ⟨hb, hbs⟩ := at_cons.mp h
    have hb' : buf'[off]? = some b := by
      rw [heq off (Nat.le_refl _) (by simp), hb]
    have hlt := (List.getElem?_eq_some_iff.mp hb').1
    apply at_cons.mpr
    refine ⟨hb', ih hbs hlt ?_⟩
    intro i hi hlast
    apply heq i (by omega)
    rw [List.length_cons]
    omega

theorem At.of_take {buf : List β} {off k : ℕ} {bs : List β} (h : At (buf.take k) off bs) :
    At buf off bs := by
  obtain ⟨pre, post, htake, rfl⟩ := h
  refine ⟨pre, post ++ buf.drop k, ?_, rfl⟩
  rw [← List.append_assoc, ← htake, List.take_append_drop]

/-! ### Reading back -/

/-- `d` reads `bs` back as `a`, wherever `bs` stands. -/
def Reads (d : Decoder β ε α) (a : α) (bs : List β) : Prop :=
  ∀ buf off, At buf off bs → d buf off = .ok (a, off + bs.length)

/-- Two decoders in sequence. -/
def andThen (d : Decoder β ε α) (f : α → Decoder β ε γ) : Decoder β ε γ := fun buf off => do
  let (a, off) ← d buf off
  f a buf off

theorem Reads.andThen {d : Decoder β ε α} {f : α → Decoder β ε γ} {a : α} {c : γ}
    {x y : List β} (hd : Reads d a x) (hf : Reads (f a) c y) :
    Reads (andThen d f) c (x ++ y) := by
  intro buf off h
  obtain ⟨hx, hy⟩ := at_append.mp h
  have h1 := hd buf off hx
  have h2 := hf buf (off + x.length) hy
  simp only [OffsetReader.andThen, h1, ok_bind, h2, List.length_append, Nat.add_assoc]

theorem Reads.value (a : α) : Reads (fun _ off => .ok (a, off) : Decoder β ε α) a [] := by
  intro buf off _
  simp

/-! ### Moving forward inside the buffer -/

/-- On success the offset does not move back and stays inside the buffer. -/
def Stays (d : Decoder β ε α) : Prop :=
  ∀ buf off a off', d buf off = .ok (a, off') → off ≤ off' ∧ (off ≤ buf.length → off' ≤ buf.length)

/-- On success the offset moves forward and stays inside the buffer. -/
def Advances (d : Decoder β ε α) : Prop :=
  ∀ buf off a off', d buf off = .ok (a, off') → off < off' ∧ off' ≤ buf.length

theorem Advances.stays {d : Decoder β ε α} (h : Advances d) : Stays d := by
  intro buf off a off' hd
  have hlt := h buf off a off' hd
  exact ⟨by omega, fun _ => hlt.2⟩

theorem andThen_ok {d : Decoder β ε α} {f : α → Decoder β ε γ} {buf : List β} {off : ℕ}
    {r : γ × ℕ} : andThen d f buf off = .ok r ↔
      ∃ a off', d buf off = .ok (a, off') ∧ f a buf off' = .ok r := by
  unfold andThen
  rw [bind_eq_ok]
  constructor
  · rintro ⟨⟨a, off'⟩, hd, hf⟩
    exact ⟨a, off', hd, hf⟩
  · rintro ⟨a, off', hd, hf⟩
    exact ⟨(a, off'), hd, hf⟩

theorem Advances.andThen {d : Decoder β ε α} {f : α → Decoder β ε γ} (hd : Advances d)
    (hf : ∀ a, Stays (f a)) : Advances (andThen d f) := by
  intro buf off c off' h
  obtain ⟨a, mid, h1, h2⟩ := andThen_ok.mp h
  have ha := hd buf off a mid h1
  have hc := hf a buf mid c off' h2
  have hend := hc.2 ha.2
  omega

theorem Stays.andThen {d : Decoder β ε α} {f : α → Decoder β ε γ} (hd : Stays d)
    (hf : ∀ a, Stays (f a)) : Stays (andThen d f) := by
  intro buf off c off' h
  obtain ⟨a, mid, h1, h2⟩ := andThen_ok.mp h
  have ha := hd buf off a mid h1
  have hc := hf a buf mid c off' h2
  exact ⟨by omega, fun hle => hc.2 (ha.2 hle)⟩

theorem Stays.value (a : α) : Stays (fun _ off => .ok (a, off) : Decoder β ε α) := by
  intro buf off a' off' h
  cases h
  exact ⟨Nat.le_refl _, fun h => h⟩

/-! ### Failing -/

/-- Every failure of the decoder lies in `K`. -/
def Fails (K : ε → Prop) (d : Decoder β ε α) : Prop := ∀ buf off, FailsWithin K (d buf off)

theorem Fails.andThen {K : ε → Prop} {d : Decoder β ε α} {f : α → Decoder β ε γ}
    (hd : Fails K d) (hf : ∀ a, Fails K (f a)) : Fails K (andThen d f) := by
  intro buf off
  exact (hd buf off).bind fun p _ => hf p.1 buf p.2

theorem Fails.value (K : ε → Prop) (a : α) :
    Fails K (fun _ off => .ok (a, off) : Decoder β ε α) := fun _ _ => FailsWithin.ok K _

/-! ### Reading items until an offset -/

/-- `while off < stop: a, off = item(buf, off); acc = push(acc, a)`; `fuel` bounds the
recursion. -/
def whileBefore (item : Decoder β ε α) (push : γ → α → γ) (buf : List β) (stop : ℕ) :
    ℕ → ℕ → γ → Except ε (γ × ℕ)
  | 0, off, acc => .ok (acc, off)
  | fuel + 1, off, acc =>
    if off < stop then do
      let (a, off) ← item buf off
      whileBefore item push buf stop fuel off (push acc a)
    else .ok (acc, off)

/-- The loop from `off` to `stop`: an item that moves forward needs no more than
`stop - off` turns (`readUntil_eq`). -/
def readUntil (item : Decoder β ε α) (push : γ → α → γ) (buf : List β) (off stop : ℕ) (acc : γ) :
    Except ε (γ × ℕ) :=
  whileBefore item push buf stop (stop - off) off acc

theorem whileBefore_done (item : Decoder β ε α) (push : γ → α → γ) (buf : List β)
    (stop fuel off : ℕ) (acc : γ) (h : stop ≤ off) :
    whileBefore item push buf stop fuel off acc = .ok (acc, off) := by
  cases fuel with
  | zero => rfl
  | succ fuel =>
    have hn : ¬off < stop := by omega
    simp only [whileBefore, if_neg hn]

theorem whileBefore_fuel {item : Decoder β ε α} (hi : Advances item) (push : γ → α → γ)
    (buf : List β) (stop fuel fuel' off : ℕ) (acc : γ) (h : stop - off ≤ fuel)
    (h' : stop - off ≤ fuel') : whileBefore item push buf stop fuel off acc =
      whileBefore item push buf stop fuel' off acc := by
  induction fuel generalizing fuel' off acc with
  | zero =>
    rw [whileBefore_done _ _ _ _ _ _ _ (by omega), whileBefore_done _ _ _ _ _ _ _ (by omega)]
  | succ fuel ih =>
    by_cases hlt : off < stop
    · obtain ⟨k, rfl⟩ : ∃ k, fuel' = k + 1 := ⟨fuel' - 1, by omega⟩
      simp only [whileBefore, if_pos hlt]
      cases hr : item buf off with
      | error e => rfl
      | ok p =>
        have hp := hi buf off p.1 p.2 hr
        exact ih k p.2 (push acc p.1) (by omega) (by omega)
    · rw [whileBefore_done _ _ _ _ _ _ _ (by omega), whileBefore_done _ _ _ _ _ _ _ (by omega)]

/-- For an item that moves forward, `readUntil` is the `while` loop. -/
theorem readUntil_eq {item : Decoder β ε α} (hi : Advances item) (push : γ → α → γ)
    (buf : List β) (off stop : ℕ) (acc : γ) : readUntil item push buf off stop acc =
      if off < stop then do
        let (a, off) ← item buf off
        readUntil item push buf off stop (push acc a)
      else .ok (acc, off) := by
  by_cases hlt : off < stop
  · obtain ⟨k, hk⟩ : ∃ k, stop - off = k + 1 := ⟨stop - off - 1, by omega⟩
    simp only [readUntil, hk, whileBefore, if_pos hlt]
    cases hr : item buf off with
    | error e => rfl
    | ok p =>
      have hp := hi buf off p.1 p.2 hr
      exact whileBefore_fuel hi push buf stop _ _ _ _ (by omega) (by omega)
  · rw [if_neg hlt]
    exact whileBefore_done _ _ _ _ _ _ _ (by omega)

/-- The `while` loop itself, without fuel: it stands at an offset, reads so many more items
and ends with a result. -/
inductive Loops (item : Decoder β ε α) (push : γ → α → γ) (buf : List β) (stop : ℕ) :
    ℕ → γ → ℕ → Except ε (γ × ℕ) → Prop
  | exits {off : ℕ} {acc : γ} (h : stop ≤ off) : Loops item push buf stop off acc 0 (.ok (acc, off))
  | raises {off : ℕ} {acc : γ} {e : ε} (h : off < stop) (he : item buf off = .error e) :
      Loops item push buf stop off acc 0 (.error e)
  | turns {off mid n : ℕ} {acc : γ} {a : α} {r : Except ε (γ × ℕ)} (h : off < stop)
      (ha : item buf off = .ok (a, mid)) (hr : Loops item push buf stop mid (push acc a) n r) :
      Loops item push buf stop off acc (n + 1) r

theorem Loops.unique {item : Decoder β ε α} {push : γ → α → γ} {buf : List β}
    {stop off n n' : ℕ} {acc : γ} {r r' : Except ε (γ × ℕ)}
    (h : Loops item push buf stop off acc n r) (h' : Loops item push buf stop off acc n' r') :
    n = n' ∧ r = r' := by
  induction h generalizing n' with
  | exits h =>
    cases h' with
    | exits _ => exact ⟨rfl, rfl⟩
    | raises h' _ => omega
    | turns h' _ _ => omega
  | raises h he =>
    cases h' with
    | exits h' => omega
    | raises _ he' =>
      rw [he] at he'
      cases he'
      exact ⟨rfl, rfl⟩
    | turns _ ha _ =>
      rw [he] at ha
      cases ha
  | turns h ha _ ih =>
    cases h' with
    | exits h' => omega
    | raises _ he =>
      rw [ha] at he
      cases he
    | turns _ ha' hr' =>
      rw [ha] at ha'
      cases ha'
      obtain ⟨rfl, rfl⟩ := ih hr'
      exact ⟨rfl, rfl⟩

/-- Over items that move forward the loop comes to an end, with what `readUntil` gives. -/
theorem readUntil_loops {item : Decoder β ε α} (hi : Advances item) (push : γ → α → γ)
    (buf : List β) (off stop : ℕ) (acc : γ) :
    ∃ n ≤ stop - off, Loops item push buf stop off acc n (readUntil item push buf off stop acc) := by
  induction hk : stop - off using Nat.strongRecOn generalizing off acc with
  | ind k ih =>
    rw [readUntil_eq hi]
    by_cases hlt : off < stop
    · rw [if_pos hlt]
      cases hr : item buf off with
      | error e => exact ⟨0, Nat.zero_le _, .raises hlt hr⟩
      | ok p =>
        obtain ⟨a, mid⟩ := p
        have hp := hi buf off a mid hr
        obtain ⟨n, hn, hloop⟩ := ih (stop - mid) (by omega) mid (push acc a) rfl
        exact ⟨n + 1, by omega, .turns hlt hr hloop⟩
    · rw [if_neg hlt]
      exact ⟨0, Nat.zero_le _, .exits (by omega)⟩

theorem whileBefore_ok {item : Decoder β ε α} (hi : Advances item) (push : γ → α → γ)
    (buf : List β) (stop fuel off : ℕ) (acc : γ)
    (hoff : off ≤ buf.length) {r : γ} {off' : ℕ} (hf : stop - off ≤ fuel)
    (h : whileBefore item push buf stop fuel off acc = .ok (r, off')) :
    stop ≤ off' ∧ off ≤ off' ∧ off' ≤ buf.length := by
  induction fuel generalizing off acc with
  | zero =>
    cases h
    omega
  | succ fuel ih =>
    by_cases hlt : off < stop
    · simp only [whileBefore, if_pos hlt] at h
      obtain ⟨p, hp, h⟩ := bind_eq_ok.mp h
      have ha := hi buf off p.1 p.2 hp
      have hr := ih p.2 (push acc p.1) ha.2 (by omega) h
      omega
    · simp only [whileBefore, if_neg hlt] at h
      cases h
      omega

theorem readUntil_length {item : Decoder β ε α} (hi : Advances item) (push : γ → α → γ)
    (buf : List β) (off : ℕ) (acc : γ) (hoff : off ≤ buf.length) {r : γ} {off' : ℕ}
    (h : readUntil item push buf off buf.length acc = .ok (r, off')) : off' = buf.length := by
  have hr := whileBefore_ok hi push buf buf.length _ off acc hoff (Nat.le_refl _) h
  omega

theorem whileBefore_fails {K : ε → Prop} {item : Decoder β ε α} (hi : Fails K item)
    (push : γ → α → γ) (buf : List β) (stop fuel off : ℕ) (acc : γ) :
    FailsWithin K (whileBefore item push buf stop fuel off acc) := by
  induction fuel generalizing off acc with
  | zero => exact FailsWithin.ok K _
  | succ fuel ih =>
    unfold whileBefore
    split
    · exact (hi buf off).bind fun p _ => ih p.2 (push acc p.1)
    · exact FailsWithin.ok K _

theorem readUntil_fails {K : ε → Prop} {item : Decoder β ε α} (hi : Fails K item)
    (push : γ → α → γ) (buf : List β) (off stop : ℕ) (acc : γ) :
    FailsWithin K (readUntil item push buf off stop acc) :=
  whileBefore_fails hi push buf stop _ off acc

/-- The loop reads the concatenation of the items' encodings back, in order. -/
theorem whileBefore_reads {item : Decoder β ε α} (push : γ → α → γ) (buf : List β)
    {as : List α} {xs : List (List β)}
    (h : List.Forall₂ (fun a x => Reads item a x ∧ x ≠ []) as xs) (fuel off : ℕ) (acc : γ)
    (hat : At buf off xs.flatten) (hf : xs.flatten.length ≤ fuel) :
    whileBefore item push buf (off + xs.flatten.length) fuel off acc =
      .ok (as.foldl push acc, off + xs.flatten.length) := by
  induction h generalizing fuel off acc with
  | nil => exact whileBefore_done _ _ _ _ _ _ _ (by simp)
  | @cons a x as xs hax _ ih =>
    have hpos : 0 < x.length := List.length_pos_iff.mpr hax.2
    simp only [List.flatten_cons] at hat hf ⊢
    obtain ⟨hx, hxs⟩ := at_append.mp hat
    simp only [List.length_append] at hf ⊢
    obtain ⟨k, rfl⟩ : ∃ k, fuel = k + 1 := ⟨fuel - 1, by omega⟩
    have hlt : off < off + (x.length + xs.flatten.length) := by omega
    have hrest := ih k (off + x.length) (push acc a) hxs (by omega)
    simp only [whileBefore, if_pos hlt, hax.1 buf off hx, ok_bind, List.foldl_cons]
    rw [← Nat.add_assoc]
    exact hrest

theorem readUntil_reads {item : Decoder β ε α} (push : γ → α → γ) (buf : List β)
    {as : List α} {xs : List (List β)}
    (h : List.Forall₂ (fun a x => Reads item a x ∧ x ≠ []) as xs) (off : ℕ) (acc : γ)
    (hat : At buf off xs.flatten) :
    readUntil item push buf off (off + xs.flatten.length) acc =
      .ok (as.foldl push acc, off + xs.flatten.length) :=
  whileBefore_reads push buf h _ off acc hat (by omega)

end OffsetReader
