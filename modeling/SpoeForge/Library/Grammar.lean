import SpoeForge.Library.OffsetReader

/-!
# Languages of values, and decoders that recognise them

A language says which values a string of symbols denotes, without saying how to read
it. A decoder recognises a language when it succeeds exactly on the strings of the
language, with the value they denote and the offset after them. Recognition composes
like the decoders do, and makes the language unambiguous.
-/

namespace Grammar

open Fallible OffsetReader

variable {β ε α γ : Type}

/-- Which values a string denotes. -/
abbrev Lang (β α : Type) := α → List β → Prop

/-- The empty string, denoting `a`. -/
def Ret (a : α) : Lang β α := fun c bs => c = a ∧ bs = []

/-- One string after another, the language of the second given by the first. -/
def Seq (G : Lang β α) (H : α → Lang β γ) : Lang β γ :=
  fun c bs => ∃ a x y, G a x ∧ H a c y ∧ bs = x ++ y

/-- Any number of strings, one after another. -/
def Many (G : Lang β α) : Lang β (List α) :=
  fun as bs => ∃ xs, List.Forall₂ G as xs ∧ bs = xs.flatten

theorem Many.snoc {G : Lang β α} {as : List α} {a : α} {bs cs : List β} (h : Many G as bs)
    (ha : G a cs) : Many G (as ++ [a]) (bs ++ cs) := by
  obtain ⟨xs, hxs, rfl⟩ := h
  exact ⟨xs ++ [cs], List.rel_append hxs (.cons ha .nil), by simp⟩

theorem Many.mono {G H : Lang β α} {as : List α} {bs : List β} (h : Many G as bs)
    (hgh : ∀ a x, G a x → H a x) : Many H as bs := by
  obtain ⟨xs, hxs, rfl⟩ := h
  exact ⟨xs, hxs.imp hgh, rfl⟩

theorem Many.mem {G : Lang β α} {as : List α} {a : α} {bs : List β} (h : Many G as bs)
    (ha : a ∈ as) : ∃ x, G a x := by
  obtain ⟨xs, hxs, -⟩ := h
  induction hxs with
  | nil => cases ha
  | @cons b x as xs hb _ ih =>
    rcases List.mem_cons.mp ha with rfl | ha
    · exact ⟨x, hb⟩
    · exact ih ha

/-- The decoder succeeds exactly on the strings of the language. -/
def Recognizes (d : Decoder β ε α) (G : Lang β α) : Prop :=
  ∀ buf off a off', off ≤ buf.length →
    (d buf off = .ok (a, off') ↔ ∃ bs, At buf off bs ∧ G a bs ∧ off' = off + bs.length)

/-! ### Recognition composes -/

theorem Recognizes.congr {d : Decoder β ε α} {G H : Lang β α} (h : Recognizes d G)
    (hgh : ∀ a bs, G a bs ↔ H a bs) : Recognizes d H := by
  intro buf off a off' hoff
  rw [h buf off a off' hoff]
  simp only [hgh]

theorem Recognizes.value (a : α) :
    Recognizes (fun _ off => .ok (a, off) : Decoder β ε α) (Ret a) := by
  intro buf off c off' hoff
  constructor
  · intro h
    cases h
    exact ⟨[], at_nil hoff, ⟨rfl, rfl⟩, rfl⟩
  · rintro ⟨bs, -, ⟨rfl, rfl⟩, rfl⟩
    rfl

theorem Recognizes.andThen {d : Decoder β ε α} {f : α → Decoder β ε γ} {G : Lang β α}
    {H : α → Lang β γ} (hd : Recognizes d G) (hf : ∀ a, Recognizes (f a) (H a)) :
    Recognizes (andThen d f) (Seq G H) := by
  intro buf off c off' hoff
  rw [andThen_ok]
  constructor
  · rintro ⟨a, mid, h1, h2⟩
    obtain ⟨x, hx, hG, rfl⟩ := (hd buf off a mid hoff).mp h1
    obtain ⟨y, hy, hH, rfl⟩ := (hf a buf _ c off' hx.length_le).mp h2
    refine ⟨x ++ y, at_append.mpr ⟨hx, hy⟩, ⟨a, x, y, hG, hH, rfl⟩, ?_⟩
    rw [List.length_append, Nat.add_assoc]
  · rintro ⟨bs, hat, ⟨a, x, y, hG, hH, rfl⟩, rfl⟩
    obtain ⟨hx, hy⟩ := at_append.mp hat
    refine ⟨a, off + x.length, (hd buf off a _ hoff).mpr ⟨x, hx, hG, rfl⟩, ?_⟩
    apply (hf a buf _ c _ hx.length_le).mpr
    exact ⟨y, hy, hH, by rw [List.length_append, Nat.add_assoc]⟩

theorem Recognizes.map {d : Decoder β ε α} {G : Lang β α} (h : Recognizes d G) (f : α → γ) :
    Recognizes (OffsetReader.andThen d fun a _ off => .ok (f a, off))
      (fun c bs => ∃ a, G a bs ∧ c = f a) := by
  apply (h.andThen fun a => Recognizes.value (f a)).congr
  intro c bs
  constructor
  · rintro ⟨a, x, y, hG, ⟨rfl, rfl⟩, rfl⟩
    exact ⟨a, by simpa using hG, rfl⟩
  · rintro ⟨a, hG, rfl⟩
    exact ⟨a, bs, [], hG, ⟨rfl, rfl⟩, by simp⟩

/-! ### What recognition says about the language -/

theorem Recognizes.reads {d : Decoder β ε α} {G : Lang β α} (h : Recognizes d G) {a : α}
    {bs : List β} (hG : G a bs) : Reads d a bs := by
  intro buf off hat
  have hoff := hat.length_le
  exact (h buf off a _ (by omega)).mpr ⟨bs, hat, hG, rfl⟩

/-- No string of the language is the beginning of another one. -/
theorem Recognizes.prefix_eq {d : Decoder β ε α} {G : Lang β α} (h : Recognizes d G) {a a' : α}
    {x x' y y' : List β} (hG : G a x) (hG' : G a' x') (heq : x ++ y = x' ++ y') :
    a = a' ∧ x = x' := by
  have h1 := h.reads hG (x ++ y) 0 ⟨[], y, rfl, rfl⟩
  have h2 := h.reads hG' (x ++ y) 0 ⟨[], y', heq, rfl⟩
  rw [h1, Except.ok.injEq, Prod.mk.injEq] at h2
  have hlen : x.length = x'.length := by omega
  exact ⟨h2.1, List.append_inj_left heq hlen⟩

theorem Recognizes.unique {d : Decoder β ε α} {G : Lang β α} (h : Recognizes d G) {a a' : α}
    {bs : List β} (hG : G a bs) (hG' : G a' bs) : a = a' := by
  have heq : bs ++ [] = bs ++ [] := rfl
  exact (h.prefix_eq hG hG' heq).1

theorem Recognizes.ne_nil {d : Decoder β ε α} {G : Lang β α} (h : Recognizes d G)
    (hd : Advances d) {a : α} {bs : List β} (hG : G a bs) : bs ≠ [] := by
  rintro rfl
  have hr := h.reads hG [] 0 (at_nil (Nat.le_refl _))
  have hlt := (hd [] 0 a _ hr).1
  simp at hlt

/-! ### Items in a buffer -/

/-- An item ends where its own symbols say: any buffer that has them at the same offsets, with
whatever around them, is read the same, and the buffer cut inside the item fails in `K`. -/
def SelfDelimiting (K : ε → Prop) (d : Decoder β ε α) : Prop :=
  ∀ buf off a fin, d buf off = .ok (a, fin) →
    (∀ buf' : List β, (∀ i, off ≤ i → i < fin → buf'[i]? = buf[i]?) → d buf' off = .ok (a, fin)) ∧
      ∀ k, off ≤ k → k < fin → ∃ e, d (buf.take k) off = .error e ∧ K e

/-- No item, wherever it is read, is a proper beginning of another item. -/
def PrefixFree (d : Decoder β ε α) : Prop :=
  ∀ buf off a fin buf' off' b fin', d buf off = .ok (a, fin) → d buf' off' = .ok (b, fin') →
    (buf.drop off).take (fin - off) <+: (buf'.drop off').take (fin' - off') →
      a = b ∧ (buf.drop off).take (fin - off) = (buf'.drop off').take (fin' - off')

/-- What a decoder that moves forward has read stands in the buffer and is a string of the
language. -/
theorem Recognizes.item {d : Decoder β ε α} {G : Lang β α} (h : Recognizes d G)
    (ha : Advances d) {buf : List β} {off : ℕ} {a : α} {fin : ℕ} (hd : d buf off = .ok (a, fin)) :
    ∃ bs, At buf off bs ∧ G a bs ∧ fin = off + bs.length ∧
      (buf.drop off).take (fin - off) = bs := by
  have hlt := ha buf off a fin hd
  obtain ⟨bs, hat, hG, rfl⟩ := (h buf off a fin (by omega)).mp hd
  refine ⟨bs, hat, hG, rfl, ?_⟩
  rw [Nat.add_sub_cancel_left]
  exact hat.slice

theorem Recognizes.selfDelimiting {K : ε → Prop} {d : Decoder β ε α} {G : Lang β α}
    (h : Recognizes d G) (ha : Advances d) (hf : Fails K d) : SelfDelimiting K d := by
  intro buf off a fin hd
  obtain ⟨bs, hat, hG, rfl, -⟩ := h.item ha hd
  have hlt := ha buf off a _ hd
  constructor
  · intro buf' heq
    have hfirst : buf'[off]? = some buf[off] := by
      rw [heq off (Nat.le_refl _) hlt.1]
      exact List.getElem?_eq_getElem (by omega)
    have hoff := (List.getElem?_eq_some_iff.mp hfirst).1
    exact h.reads hG buf' off (hat.congr (by omega) heq)
  · intro k hk hcut
    cases hr : d (buf.take k) off with
    | error e => exact ⟨e, rfl, hf _ _ e hr⟩
    | ok r =>
      -- an item of the cut buffer would be one of the whole buffer, at the same offset
      obtain ⟨bs', hat', hG', hfin, -⟩ := h.item ha hr
      have hwhole := h.reads hG' buf off hat'.of_take
      rw [hd, Except.ok.injEq, Prod.mk.injEq] at hwhole
      have hle := hat'.length_le
      rw [List.length_take] at hle
      omega

theorem Recognizes.prefixFree {d : Decoder β ε α} {G : Lang β α} (h : Recognizes d G)
    (ha : Advances d) : PrefixFree d := by
  intro buf off a fin buf' off' b fin' hd hd' hpre
  obtain ⟨x, -, hx, -, hpiece⟩ := h.item ha hd
  obtain ⟨y, -, hy, -, hpiece'⟩ := h.item ha hd'
  rw [hpiece, hpiece'] at hpre ⊢
  obtain ⟨post, rfl⟩ := hpre
  have heq : x ++ post = (x ++ post) ++ [] := (List.append_nil _).symm
  exact h.prefix_eq hx hy heq

/-! ### Loops -/

theorem whileBefore_recognizes {item : Decoder β ε α} {G : Lang β α} (h : Recognizes item G)
    (hi : Advances item) (push : γ → α → γ) (buf : List β) (fuel off : ℕ) (acc r : γ) (off' : ℕ)
    (hoff : off ≤ buf.length) (hfuel : buf.length - off ≤ fuel)
    (hr : whileBefore item push buf buf.length fuel off acc = .ok (r, off')) :
    ∃ as bs, At buf off bs ∧ Many G as bs ∧ off + bs.length = buf.length ∧ off' = buf.length ∧
      r = as.foldl push acc := by
  induction fuel generalizing off acc with
  | zero =>
    cases hr
    have hend : off' = buf.length := by omega
    exact ⟨[], [], at_nil hoff, ⟨[], .nil, rfl⟩, by simpa using hend, hend, rfl⟩
  | succ fuel ih =>
    by_cases hlt : off < buf.length
    · simp only [whileBefore, if_pos hlt] at hr
      obtain ⟨⟨a, mid⟩, ha, hr⟩ := bind_eq_ok.mp hr
      have hmid := hi buf off a mid ha
      obtain ⟨x, hx, hG, rfl⟩ := (h buf off a mid hoff).mp ha
      obtain ⟨as, bs, hbs, ⟨xs, hxs, rfl⟩, hlen, hend, hfold⟩ :=
        ih (off + x.length) (push acc a) hmid.2 (by omega) hr
      refine ⟨a :: as, x ++ xs.flatten, at_append.mpr ⟨hx, hbs⟩, ⟨x :: xs, .cons hG hxs, rfl⟩, ?_,
        hend, hfold⟩
      rw [List.length_append]
      omega
    · simp only [whileBefore, if_neg hlt] at hr
      cases hr
      have hend : off' = buf.length := by omega
      exact ⟨[], [], at_nil hoff, ⟨[], .nil, rfl⟩, by simpa using hend, hend, rfl⟩

/-- The loop to the end of the buffer succeeds exactly when what is left is a string of any
number of items. -/
theorem readUntil_recognizes {item : Decoder β ε α} {G : Lang β α} (h : Recognizes item G)
    (hi : Advances item) (push : γ → α → γ) (buf : List β) (off : ℕ) (acc r : γ) (off' : ℕ)
    (hoff : off ≤ buf.length) : readUntil item push buf off buf.length acc = .ok (r, off') ↔
      ∃ as, Many G as (buf.drop off) ∧ r = as.foldl push acc ∧ off' = buf.length := by
  constructor
  · intro hr
    obtain ⟨as, bs, hat, hmany, hlen, hend, hfold⟩ :=
      whileBefore_recognizes h hi push buf _ off acc r off' hoff (Nat.le_refl _) hr
    have hdrop : buf.drop off = bs := by
      obtain ⟨post, hd⟩ := hat.drop
      have hl := congrArg List.length hd
      simp only [List.length_drop, List.length_append] at hl
      obtain rfl : post = [] := List.length_eq_zero_iff.mp (by omega)
      simpa using hd
    exact ⟨as, hdrop ▸ hmany, hfold, hend⟩
  · rintro ⟨as, ⟨xs, hxs, hdrop⟩, rfl, rfl⟩
    have hreads : List.Forall₂ (fun a x => Reads item a x ∧ x ≠ []) as xs :=
      hxs.imp fun _ _ hG => ⟨h.reads hG, h.ne_nil hi hG⟩
    have hat : At buf off xs.flatten :=
      ⟨buf.take off, [], by rw [← hdrop, List.append_nil, List.take_append_drop], by simp [hoff]⟩
    have hlen : off + xs.flatten.length = buf.length := by
      rw [← hdrop, List.length_drop]
      omega
    have hr := readUntil_reads push buf hreads off acc hat
    rw [hlen] at hr
    exact hr

end Grammar
