import Folio.Path

/-!
# Joined paths

Main result:

* `toList_join`: a joined path is the path of the directory, less the separator at its end if it
  has one, then a separator and the name.
-/

namespace Folio.Path

theorem isAbsolute_eq_false {name : String} (h : '/' ∉ name.toList) : isAbsolute name = false := by
  rw [isAbsolute]
  cases hcs : name.toList with
  | nil => rfl
  | cons c cs =>
    have hc : c ≠ '/' := by
      rintro rfl
      exact h (hcs ▸ List.mem_cons_self)
    simp [hc]

theorem isAbsolute_append {name : String} (hname : name ≠ "") (rest : String) :
    isAbsolute (name ++ rest) = isAbsolute name := by
  obtain ⟨c, cs, hcs⟩ := List.exists_cons_of_ne_nil (mt String.toList_eq_nil_iff.mp hname)
  simp [isAbsolute, hcs]

theorem join_eq_append {dir name : String} (hdir : dir.toList.getLast? = some '/')
    (hname : '/' ∉ name.toList) : join dir name = dir ++ name := by
  simp [join, isAbsolute_eq_false hname, hdir]

theorem join_eq_append_slash {dir name : String} (hne : dir ≠ "")
    (hdir : dir.toList.getLast? ≠ some '/') (hname : '/' ∉ name.toList) :
    join dir name = dir ++ "/" ++ name := by
  simp [join, isAbsolute_eq_false hname, hdir, hne]

theorem toList_join {dir name : String} (hdir : dir ≠ "") (hname : '/' ∉ name.toList) :
    ∃ base, (dir.toList = base ∨ dir.toList = base ++ ['/']) ∧
      (join dir name).toList = base ++ '/' :: name.toList := by
  by_cases hend : dir.toList.getLast? = some '/'
  · obtain ⟨base, hbase⟩ := List.getLast?_eq_some_iff.mp hend
    refine ⟨base, Or.inr hbase, ?_⟩
    rw [join_eq_append hend hname]
    simp [hbase]
  · refine ⟨dir.toList, Or.inl rfl, ?_⟩
    rw [join_eq_append_slash hdir hend hname]
    simp

theorem join_ne_empty {dir name : String} (hdir : dir ≠ "") (hname : '/' ∉ name.toList) :
    join dir name ≠ "" := by
  obtain ⟨base, -, hjoin⟩ := toList_join hdir hname
  intro h
  simp [h] at hjoin

theorem isAbsolute_join {dir name : String} (hdir : dir ≠ "") (hname : '/' ∉ name.toList) :
    isAbsolute (join dir name) = isAbsolute dir := by
  obtain ⟨base, hbase, hjoin⟩ := toList_join hdir hname
  rw [isAbsolute, isAbsolute, hjoin]
  cases base with
  | nil =>
    rcases hbase with hbase | hbase
    · exact absurd (String.toList_eq_nil_iff.mp hbase) hdir
    · rw [hbase]
      rfl
  | cons c base => rcases hbase with hbase | hbase <;> rw [hbase] <;> rfl

theorem mem_toList_join {dir name : String} (hdir : dir ≠ "") (hname : '/' ∉ name.toList)
    {c : Char} (hc : c ≠ '/') :
    c ∈ (join dir name).toList ↔ c ∈ dir.toList ∨ c ∈ name.toList := by
  obtain ⟨base, hbase, hjoin⟩ := toList_join hdir hname
  rcases hbase with hbase | hbase <;> simp [hjoin, hbase, hc]

theorem size_le_join {dir name : String} (hname : '/' ∉ name.toList) :
    dir.utf8ByteSize ≤ (join dir name).utf8ByteSize := by
  rw [join, isAbsolute_eq_false hname]
  split
  · contradiction
  · split <;> simp only [String.utf8ByteSize_append] <;> omega

end Folio.Path
