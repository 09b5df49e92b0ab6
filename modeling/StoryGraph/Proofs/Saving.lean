import Mathlib.Data.String.Basic
import StoryGraph.Command.Run

namespace StoryGraph

structure IsPlainName (name : String) : Prop where
  ne_empty : name ≠ ""
  ne_dot : name ≠ "."
  ne_dots : name ≠ ".."
  slash_not_mem : '/' ∉ name.toList

namespace IsPlainName

variable {name : String}

theorem pathParts_eq (h : IsPlainName name) : pathParts name = [name] := by
  rw [pathParts, List.splitOn_eq_singleton h.slash_not_mem, List.map_singleton,
    String.ofList_toList]

theorem pathStart_eq (h : IsPlainName name) : pathStart name = [] := by
  refine if_neg ?_
  rw [String.startsWith_string_iff]
  intro hstart
  exact h.slash_not_mem (hstart.subset List.mem_cons_self)

theorem pathNames_eq (h : IsPlainName name) : pathNames name = [name] := by
  simp [pathNames, h.pathParts_eq, h.ne_empty]

theorem not_endsWith (h : IsPlainName name) : ¬ name.endsWith "/" := by
  rw [← String.endsWith_toSlice, String.Slice.endsWith_string_iff, String.copy_toSlice]
  intro hend
  exact h.slash_not_mem (hend.subset List.mem_cons_self)

theorem ne_root (h : IsPlainName name) : [name] ≠ Place.root := by
  rintro heq
  obtain rfl : name = "/" := List.singleton_inj.mp heq
  exact h.slash_not_mem List.mem_cons_self

theorem isGiven_eq_false (h : IsPlainName name) : Place.isGiven [name] = false := by
  simp [Place.isGiven, h.ne_dots, h.ne_root]

theorem above_eq (h : IsPlainName name) : Place.above [name] = [] := by
  rw [Place.above, if_neg h.ne_root, h.isGiven_eq_false]
  rfl

end IsPlainName

theorem decodeText_toUTF8 (text : String) : decodeText text.toUTF8 = .ok text := by
  have htext : String.fromUTF8? text.toUTF8 = some text := dif_pos text.isValidUTF8
  rw [decodeText, htext]

namespace FileTree

variable {tree : FileTree} {place other : Place} {entry : FileEntry} {name : String}

theorem get?_nil (tree : FileTree) : tree.get? [] = some .directory := rfl

theorem get?_put_self (h : place.isGiven = false) :
    (tree.put place entry).get? place = some entry := by
  simp [get?, put, h]

theorem get?_put_of_ne (h : other ≠ place) :
    (tree.put place entry).get? other = tree.get? other := by
  have hkept : ∀ old : Place × FileEntry, old.1 ≠ place ∧ old.1 = other ↔ old.1 = other := by
    intro old
    refine and_iff_right_of_imp ?_
    rintro rfl
    exact h
  simp [get?, put, List.find?_filter, hkept, h.symm]

/-- A plain name under which there is a file or nothing, in a directory that takes such a name. -/
structure Receives (tree : FileTree) (name : String) : Prop where
  plain : IsPlainName name
  short : name.utf8ByteSize ≤ maxNameSize
  free : tree.get? [name] = none ∨ ∃ bytes, tree.get? [name] = some (.file bytes)

/-- The text can be read under the name, and everything else is as it was. -/
structure Saved (tree : FileTree) (name text : String) (saved : FileTree) : Prop where
  read : saved.read name = .ok text
  kept : ∀ place, place ≠ [name] → saved.get? place = tree.get? place

theorem enter_nil (hplain : IsPlainName name) (hshort : name.utf8ByteSize ≤ maxNameSize) :
    tree.enter [] name = .ok [name] := by
  simp [enter, get?_nil, hplain.ne_empty, hplain.ne_dot, hplain.ne_dots, hshort.not_gt]

theorem follow_nil (hplain : IsPlainName name) (hshort : name.utf8ByteSize ≤ maxNameSize) :
    tree.follow [] [name] = .ok [name] := by
  rw [follow, List.foldlM_cons, enter_nil hplain hshort]
  rfl

theorem size_le_maxPathSize (h : name.utf8ByteSize ≤ maxNameSize) :
    name.utf8ByteSize ≤ maxPathSize := h.trans (by decide)

theorem read_plain (hplain : IsPlainName name) (hshort : name.utf8ByteSize ≤ maxNameSize)
    {bytes : ByteArray} (hfile : tree.get? [name] = some (.file bytes)) :
    tree.read name = decodeText bytes := by
  rw [read, if_neg hplain.ne_empty, if_neg (size_le_maxPathSize hshort).not_gt,
    hplain.pathStart_eq, hplain.pathParts_eq, follow_nil hplain hshort]
  simp only [hfile]

theorem read_plain_toUTF8 (hplain : IsPlainName name) (hshort : name.utf8ByteSize ≤ maxNameSize)
    {text : String} (hfile : tree.get? [name] = some (.file text.toUTF8)) :
    tree.read name = .ok text :=
  (read_plain hplain hshort hfile).trans (decodeText_toUTF8 text)

theorem makeParents_plain (hplain : IsPlainName name) : tree.makeParents name = .ok tree := by
  rw [makeParents, hplain.pathNames_eq]
  rfl

namespace Receives

variable (h : tree.Receives name) (text : String)

include h

theorem writeAt_eq : tree.writeAt [name] text = .ok (tree.put [name] (.file text.toUTF8)) := by
  rw [writeAt]
  obtain hnone | ⟨bytes, hfile⟩ := h.free
  · rw [hnone]
    simp only [create, h.plain.above_eq, get?_nil]
  · rw [hfile]

theorem write_eq : tree.write name text = .ok (tree.put [name] (.file text.toUTF8)) := by
  have hnames : [name].filter (· ≠ "") = [name] := by simp [h.plain.ne_empty]
  have hlast : ¬ (name.endsWith "/" ∨ name = "." ∨ name = "..") := by
    rintro (hend | hdot | hdots)
    · exact h.plain.not_endsWith hend
    · exact h.plain.ne_dot hdot
    · exact h.plain.ne_dots hdots
  have hfollow : tree.follow (pathStart name) ([name].dropLast ++ ["."]) = .ok [] := by
    rw [h.plain.pathStart_eq]
    rfl
  rw [write, h.plain.pathParts_eq, hnames]
  simp only [if_neg h.plain.ne_empty, if_neg (size_le_maxPathSize h.short).not_gt, hfollow,
    List.getLastD_cons, List.getLastD_nil, if_neg hlast, enter_nil h.plain h.short,
    h.writeAt_eq text]

theorem save_eq : Command.save tree name text = .ok (tree.put [name] (.file text.toUTF8)) := by
  simp only [Command.save, makeParents_plain h.plain, h.write_eq text]

theorem saved_put : tree.Saved name text (tree.put [name] (.file text.toUTF8)) where
  read := read_plain_toUTF8 h.plain h.short (get?_put_self h.plain.isGiven_eq_false)
  kept _ hplace := get?_put_of_ne hplace

end Receives

end FileTree

end StoryGraph
