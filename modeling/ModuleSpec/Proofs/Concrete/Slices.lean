import ModuleSpec.Concrete.Node
import ModuleSpec.Proofs.Text.Marker

/-!
# Slices of a text

Between two offsets of a text stands a text of its own when neither offset lies
inside a character.  Then the text is what comes before it, the slice, and what
comes after it.  An offset is at the start of a word when no word goes on across it.

**Results.**  `exists_slice` and `exists_append_of_slice`.  `occurs_of_slice`: a marker
that is sliced out of a text at the start of a word occurs there.
-/

namespace ModuleSpec

namespace Text

/-- No word goes on across an offset of a text. -/
def WordStart (text : String) (offset : Nat) : Prop :=
  ∀ before after : String, text = before ++ after → before.utf8ByteSize = offset →
    endsInWord false before.toList = false

/-- A text is cut in one way at an offset. -/
theorem wordStart_of_append
    {before after : String}
    (h : endsInWord false before.toList = false) :
    WordStart (before ++ after) before.utf8ByteSize := by
  intro before' after' htext hsize
  have hbytes := congrArg String.toByteArray htext
  rw [String.toByteArray_append, String.toByteArray_append] at hbytes
  rwa [← String.toByteArray_inj.1 (ByteArray.append_inj_left hbytes hsize.symm)]

end Text

namespace Concrete

namespace Source

variable {text piece : String} {start stop : Nat}

theorem bytes_of_slice
    (h : (ofString text).slice start stop = .ok piece) :
    text.toByteArray.extract start stop = piece.toByteArray := by
  have hread : String.fromUTF8? (text.toByteArray.extract start stop) = some piece := by
    rw [slice] at h
    split at h
    case h_1 found hfound =>
        cases h
        exact hfound
    case h_2 => cases h
  rw [String.fromUTF8?] at hread
  split at hread
  case isTrue hvalid =>
      cases hread
      rfl
  case isFalse => cases hread

theorem slice_of_extract
    {source : Source} {piece : String}
    (h : source.bytes.extract start stop = piece.toByteArray) :
    source.slice start stop = .ok piece := by
  have hread : String.fromUTF8? (source.bytes.extract start stop) = some piece := by
    rw [h, String.fromUTF8?, dif_pos piece.isValidUTF8]
    rfl
  rw [slice]
  simp only [hread]

/-- Between two offsets at which characters begin there is a text, empty when they are crossed. -/
theorem exists_slice
    (hstart : (String.Pos.Raw.mk start).IsValid text)
    (hstop : (String.Pos.Raw.mk stop).IsValid text) :
    ∃ piece, (ofString text).slice start stop = .ok piece := by
  obtain ⟨before, rest, htext, hbefore⟩ := String.Pos.Raw.isValid_iff_exists_append.1 hstart
  obtain ⟨front, after, htext', hfront⟩ := String.Pos.Raw.isValid_iff_exists_append.1 hstop
  obtain rfl : start = before.utf8ByteSize := congrArg String.Pos.Raw.byteIdx hbefore
  obtain rfl : stop = front.utf8ByteSize := congrArg String.Pos.Raw.byteIdx hfront
  have hlists : before.toList ++ rest.toList = front.toList ++ after.toList := by
    rw [← String.toList_append, ← htext, htext', String.toList_append]
  rcases List.append_eq_append_iff.1 hlists with ⟨cs, hcs, -⟩ | ⟨cs, hcs, -⟩
  · obtain rfl : front = before ++ String.ofList cs := by
      rw [← String.toList_inj, hcs, String.toList_append, String.toList_ofList]
    refine ⟨String.ofList cs, slice_of_extract ?_⟩
    have hbefore : before.toByteArray.extract before.utf8ByteSize
        (before.utf8ByteSize + (String.ofList cs).utf8ByteSize) = ByteArray.empty := by
      rw [ByteArray.extract_eq_empty_iff, String.size_toByteArray]
      exact Nat.min_le_right _ _
    rw [ofString, htext', String.toUTF8_eq_toByteArray, String.append_assoc,
      String.toByteArray_append, String.utf8ByteSize_append, ByteArray.extract_append, hbefore,
      ByteArray.empty_append, String.size_toByteArray, Nat.sub_self, Nat.add_sub_cancel_left,
      String.toByteArray_append]
    exact ByteArray.extract_append_eq_left String.size_toByteArray.symm
  · refine ⟨"", slice_of_extract ?_⟩
    have hsize : front.utf8ByteSize ≤ before.utf8ByteSize := by
      obtain rfl : before = front ++ String.ofList cs := by
        rw [← String.toList_inj, hcs, String.toList_append, String.toList_ofList]
      rw [String.utf8ByteSize_append]
      exact Nat.le_add_right _ _
    have hempty : (ofString text).bytes.extract before.utf8ByteSize front.utf8ByteSize
        = ByteArray.empty :=
      ByteArray.extract_eq_empty_iff.2 (Nat.le_trans (Nat.min_le_left _ _) hsize)
    rw [hempty]
    rfl

/-- The first byte of a slice begins a character, so a text can be cut where a slice begins. -/
theorem exists_cut_of_slice
    (h : (ofString text).slice start stop = .ok piece)
    (hpiece : piece ≠ "") :
    ∃ before rest : String, text = before ++ rest ∧ before.utf8ByteSize = start := by
  have hbytes := bytes_of_slice h
  have hsize : 0 < (text.toByteArray.extract start stop).size := by
    rw [hbytes, String.size_toByteArray]
    exact Nat.pos_of_ne_zero fun hzero => hpiece (String.utf8ByteSize_eq_zero_iff.1 hzero)
  have hfirst : (text.toByteArray.extract start stop)[0].IsUTF8FirstByte := by
    have hvalid : (text.toByteArray.extract start stop).IsValidUTF8 := by
      rw [hbytes]
      exact piece.isValidUTF8
    exact hvalid.isUTF8FirstByte_getElem_zero hsize
  have hinside : start < text.utf8ByteSize := by
    rw [ByteArray.size_extract, String.size_toByteArray] at hsize
    omega
  have hstart : (String.Pos.Raw.mk start).IsValid text := by
    refine String.Pos.Raw.isValid_iff_isUTF8FirstByte.2 (.inr ⟨String.Pos.Raw.lt_iff.2 hinside, ?_⟩)
    rw [ByteArray.getElem_extract] at hfirst
    simpa [String.getUTF8Byte] using hfirst
  obtain ⟨before, rest, htext, hbefore⟩ := String.Pos.Raw.isValid_iff_exists_append.1 hstart
  exact ⟨before, rest, htext, by rw [← String.byteIdx_rawEndPos, ← hbefore]⟩

theorem exists_append_of_slice
    (h : (ofString text).slice start stop = .ok piece)
    (hpiece : piece ≠ "") :
    ∃ before after : String, text = before ++ (piece ++ after) ∧ before.utf8ByteSize = start := by
  obtain ⟨before, rest, rfl, hsize⟩ := exists_cut_of_slice h hpiece
  have hempty : before.toByteArray.extract start stop = ByteArray.empty := by
    rw [ByteArray.extract_eq_empty_iff, String.size_toByteArray, hsize]
    exact Nat.min_le_right _ _
  have hrest : piece.toByteArray ++
      rest.toByteArray.extract (stop - start) rest.toByteArray.size = rest.toByteArray := by
    rw [← bytes_of_slice h, String.toByteArray_append, ByteArray.extract_append, hempty,
      ByteArray.empty_append, String.size_toByteArray, hsize, Nat.sub_self,
      ByteArray.extract_append_extract, Nat.zero_min, ByteArray.extract_zero_max_size]
  rw [← String.utf8Encode_toList, ← String.utf8Encode_toList] at hrest
  obtain ⟨after, hafter⟩ := List.isPrefix_of_utf8Encode_append_eq_utf8Encode _ hrest
  refine ⟨before, String.ofList after, ?_, hsize⟩
  rw [← String.toList_inj]
  simp [← hafter]

/-- A marker that is sliced out of a text at the start of a word occurs in it. -/
theorem occurs_of_slice
    (h : (ofString text).slice start stop = .ok piece)
    (hpiece : piece ≠ "")
    (hstart : Text.WordStart text start) :
    Text.Occurs false piece.toList false text.toList := by
  obtain ⟨before, after, htext, hsize⟩ := exists_append_of_slice h hpiece
  refine ⟨before.toList, after.toList, ?_, hstart before _ htext hsize, nofun⟩
  rw [htext, String.toList_append, String.toList_append, List.append_assoc]

end Source

end Concrete

end ModuleSpec
