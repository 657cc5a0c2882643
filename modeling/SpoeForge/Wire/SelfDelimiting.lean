import SpoeForge.Wire.Grammar

/-!
# Self-delimiting items

Every decoder of an item finds the end of the item in the item itself: in the stop bit
of a varint, in the length before a binary or a string, in the type byte of typed data.
What stands before and after does not matter, and an item that is cut raises
`SpopDecodeError` at every cut.
-/

namespace SpoeForge

open OffsetReader Grammar

/-- What it takes for a decoder to read items that can stand next to each other. -/
def ReadsItems {α : Type} (d : Dec α) : Prop := SelfDelimiting IsDecodeError d ∧ PrefixFree d

theorem readsItems {α : Type} {d : Dec α} {G : Lang Byte α} (h : Recognizes d G)
    (ha : Advances d) (hf : DecodeFails d) : ReadsItems d :=
  ⟨h.selfDelimiting ha hf, h.prefixFree ha⟩

/-- For every buffer and every offset: what a decoder reads is settled by the bytes of the
item, a cut item raises a decode error, and no item is a proper beginning of another. -/
theorem decoders_selfDelimiting :
    ReadsItems parseVarint ∧ ReadsItems decodeBinary ∧ ReadsItems decodeString ∧
      ReadsItems autoDecodeVar ∧ ReadsItems parseKvPair := by
  refine ⟨?_, ?_, ?_, ?_, ?_⟩
  · exact readsItems parseVarint_recognizes parseVarint_advances parseVarint_fails
  · exact readsItems decodeBinary_recognizes decodeBinary_advances decodeBinary_fails
  · exact readsItems decodeString_recognizes decodeString_advances decodeString_fails
  · exact readsItems autoDecodeVar_recognizes autoDecodeVar_advances autoDecodeVar_fails
  · exact readsItems parseKvPair_recognizes parseKvPair_advances parseKvPair_fails

end SpoeForge
