import Polyquery.Gzip

/-!
# Stored files read back

A stored file holds its content in blocks of bytes as they are.  Every block is read as what it holds, so decoding
the file gives the content.
-/

namespace Polyquery
namespace Gzip

namespace Inflate

variable {α β : Type} {s t u : Inflation}

/-- The reader succeeds, with a result and with what is left. -/
def Runs (reader : Inflate α) (s : Inflation) (a : α) (t : Inflation) : Prop :=
  reader.run.run s = (.ok a, t)

theorem Runs.bind {reader : Inflate α} {next : α → Inflate β} {a : α} {b : β}
    (h : Runs reader s a t) (hnext : Runs (next a) t b u) : Runs (reader >>= next) s b u := by
  have hreader : reader s = (.ok a, t) := h
  have hrun : (reader >>= next) s = next a t := by
    change ExceptT.bind reader next s = _
    simp only [ExceptT.bind, ExceptT.mk, Bind.bind, StateT.bind, hreader]
    rfl
  exact hrun.trans hnext

/-!
# Reading bits and bytes
-/

theorem runs_bit {bit : Bool} {input : Bits} (h : s.input.next? = some (bit, input)) :
    Runs Inflate.bit s bit { s with input } := by
  have hstate : Runs (get : Inflate Inflation) s s s := rfl
  apply hstate.bind
  rw [h]
  rfl

theorem runs_bytes {count : Nat} (h : count ≤ s.input.bytes.length) :
    Runs (bytes count) s (s.input.bytes.take count)
      { s with input := .ofBytes (s.input.bytes.drop count) } := by
  have hif : Runs (if s.input.bytes.length < count then stop .ended
      else do
        modify fun state => { state with input := .ofBytes (s.input.bytes.drop count) }
        return s.input.bytes.take count) s (s.input.bytes.take count)
      { s with input := .ofBytes (s.input.bytes.drop count) } := by
    rw [if_neg (Nat.not_lt.mpr h)]
    rfl
  exact Runs.bind rfl hif

/-!
# Stored blocks
-/

variable {content behind : Bytes} {begun : List Bool} {output : Array UInt8}

theorem runs_bytes_spelled {width n : Nat} :
    Runs (bytes width) ⟨⟨begun, spelled width n ++ behind⟩, output⟩ (spelled width n)
      ⟨.ofBytes behind, output⟩ := by
  have hlength := length_spelled width n
  have hread := @runs_bytes ⟨⟨begun, spelled width n ++ behind⟩, output⟩ width (by
    rw [List.length_append, hlength]
    exact Nat.le_add_right width behind.length)
  rw [List.take_left' hlength, List.drop_left' hlength] at hread
  exact hread

theorem runs_stored (hsize : content.length ≤ maxStored) :
    Runs stored ⟨⟨begun, spelled 2 content.length ++ (spelled 2 (maxStored - content.length) ++
      (content ++ behind))⟩, output⟩ () ⟨.ofBytes behind, output ++ content⟩ := by
  rw [maxStored] at hsize
  refine runs_bytes_spelled.bind (runs_bytes_spelled.bind ?_)
  have hnumber : number (spelled 2 content.length) = content.length := by
    rw [number_spelled, Nat.mod_eq_of_lt (Nat.lt_succ_of_le hsize)]
  have hinverted : number (spelled 2 (maxStored - content.length)) = 65535 - content.length := by
    rw [number_spelled, maxStored]
    exact Nat.mod_eq_of_lt (Nat.lt_succ_of_le (Nat.sub_le 65535 content.length))
  rw [hnumber, hinverted, if_pos (Nat.add_sub_cancel' hsize)]
  have hall : ¬(content ++ behind).length < content.length := by
    rw [List.length_append]
    exact Nat.not_lt.mpr (Nat.le_add_right _ _)
  refine Runs.bind rfl (Runs.bind rfl (Runs.bind rfl ?_))
  change Runs (if (content ++ behind).length < content.length then stop .ended else pure ())
    ⟨.ofBytes ((content ++ behind).drop content.length),
      output ++ (content ++ behind).take content.length⟩ () _
  rw [if_neg hall, List.take_left, List.drop_left]
  rfl

theorem runs_mark (last : Bool) (rest : Bytes) :
    ∃ begun, Runs Inflate.bit ⟨.ofBytes ((if last then 1 else 0) :: rest), output⟩ last
        ⟨⟨false :: false :: begun, rest⟩, output⟩ := by
  refine ⟨List.replicate 5 false, runs_bit ?_⟩
  cases last with
  | false => rfl
  | true => rfl

theorem runs_blocks_storedBlock (last : Bool) (bound : Nat) (hsize : content.length ≤ maxStored)
    {final : Inflation}
    (h : Runs (if last then return () else blocks bound) ⟨.ofBytes behind, output ++ content⟩ () final) :
    Runs (blocks (bound + 1)) ⟨.ofBytes (storedBlock last content ++ behind), output⟩ () final := by
  have hsplit : storedBlock last content ++ behind = (if last then 1 else 0) ::
      (spelled 2 content.length ++ (spelled 2 (maxStored - content.length) ++
        (content ++ behind))) := by
    simp only [storedBlock, List.cons_append, List.append_assoc]
  rw [hsplit]
  rcases @runs_mark output last (spelled 2 content.length ++
    (spelled 2 (maxStored - content.length) ++ (content ++ behind))) with ⟨begun, hlast⟩
  have hkind : Runs (bits 2) ⟨⟨false :: false :: begun, spelled 2 content.length ++
      (spelled 2 (maxStored - content.length) ++ (content ++ behind))⟩, output⟩ 0
      ⟨⟨begun, spelled 2 content.length ++
      (spelled 2 (maxStored - content.length) ++ (content ++ behind))⟩, output⟩ := rfl
  exact hlast.bind (hkind.bind ((runs_stored hsize).bind h))

theorem runs_blocks : ∀ (bound : Nat) (content : Bytes) (output : Array UInt8) (behind : Bytes),
    content.length < bound →
    Runs (blocks bound) ⟨.ofBytes (storedBlocks content ++ behind), output⟩ ()
      ⟨.ofBytes behind, output ++ content⟩
  | bound + 1, content, output, behind, hbound => by
      rw [storedBlocks]
      by_cases hsize : content.length ≤ maxStored
      · rw [if_pos hsize]
        exact runs_blocks_storedBlock true bound hsize rfl
      · rw [if_neg hsize, List.append_assoc]
        have hfirst : (content.take maxStored).length ≤ maxStored := List.length_take_le _ _
        have hrest : (content.drop maxStored).length < bound := by
          rw [List.length_drop]
          rw [maxStored] at hsize ⊢
          omega
        have hblocks := runs_blocks bound (content.drop maxStored)
          (output ++ content.take maxStored) behind hrest
        have hjoined : output ++ content.take maxStored ++ content.drop maxStored =
            output ++ content := by
          apply Array.toList_inj.mp
          simp
        rw [hjoined] at hblocks
        exact runs_blocks_storedBlock false bound hfirst hblocks

end Inflate

/-!
# Whole files
-/

variable {content behind : Bytes}

theorem length_le_storedBlocks (content : Bytes) :
    content.length ≤ (storedBlocks content).length := by
  fun_induction storedBlocks content with
  | case1 content hsize =>
      simp only [storedBlock, List.length_append, List.length_cons]
      omega
  | case2 content hsize ih =>
      simp only [storedBlock, List.length_append, List.length_cons]
      rw [List.length_drop] at ih
      rw [List.length_take]
      omega

theorem inflate_storedBlocks (content behind : Bytes) :
    inflate (storedBlocks content ++ behind) = (content, .ok behind) := by
  have hbound : content.length < (Bits.ofBytes (storedBlocks content ++ behind)).bound + 1 := by
    have hlength := length_le_storedBlocks content
    simp only [Bits.bound, Bits.ofBytes, List.length_nil, List.length_append]
    omega
  have hblocks := Inflate.runs_blocks _ content #[] behind hbound
  rw [Inflate.Runs] at hblocks
  simp only [inflate, hblocks]
  simp [Except.map, Bits.wholeBytes, Bits.ofBytes]

theorem skipHeader_header (body : Bytes) : skipHeader (header ++ body) = .ok body := by
  rfl

theorem decode_store (content : Bytes) : decode (store content) = (content, none) := by
  have htrailer : split 8 (trailer content) = .ok (trailer content, []) := by
    have hlength : (trailer content).length = 8 := by
      simp only [trailer, List.length_append, length_spelled]
    rw [split, hlength, if_neg (Nat.lt_irrefl 8), ← hlength, List.take_length, List.drop_length]
  rw [store, List.append_assoc, decode, skipHeader_header]
  simp only [inflate_storedBlocks, htrailer, if_true]

end Gzip
end Polyquery
