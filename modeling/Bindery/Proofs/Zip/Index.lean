import Bindery.Proofs.Zip.Archive
import Bindery.Zip.Directory
import Bindery.Zip.Index
import Mathlib.Data.List.Forall2
import Mathlib.Data.List.Nodup

/-! The index that a pass over an archive makes. What the list says, what the names lead to and what
stands in the archive agree behind every member, wherever the directories are, as long as no name
comes twice; and none does in an archive that is read. -/
namespace Bindery.Zip

/-! ## Names -/

namespace Archive

theorem names_put (m : Member) (archive : Archive) :
    (archive.put m).map Member.name =
      if m.name ∈ archive.map Member.name then archive.map Member.name
      else archive.map Member.name ++ [m.name] := by
  induction archive with
  | nil => rfl
  | cons old archive ih =>
    by_cases same : old.name = m.name
    · simp [put, same]
    · have other : m.name ≠ old.name := fun equal => same equal.symm
      rw [put, if_neg same, List.map_cons, ih]
      by_cases later : m.name ∈ archive.map Member.name
      · simp [later]
      · simp [later, other]

theorem nodup_put {archive : Archive} (m : Member) (distinct : (archive.map Member.name).Nodup) :
    ((archive.put m).map Member.name).Nodup := by
  rw [names_put]
  split
  · exact distinct
  · rename_i fresh
    have behind := nodup_behind fresh distinct
    rwa [List.map_append] at behind

end Archive

theorem DirectoryPlace.nodup_members {place : DirectoryPlace} {file : Bytes} {count position : Nat}
    {before archive : Archive} (read : place.members file count position before = .ok archive)
    (distinct : (before.map Member.name).Nodup) : (archive.map Member.name).Nodup := by
  induction count generalizing position before with
  | zero =>
    cases read
    exact distinct
  | succ count ih =>
    obtain ⟨⟨m, behind⟩, _, later⟩ := ok_of_bind read
    exact ih later (Archive.nodup_put m distinct)

/-- The names in an archive that is read are distinct, whatever its directory says. -/
theorem Archive.nodup_ofFile {file : Bytes} {archive : Archive}
    (read : Archive.ofFile file = .ok archive) : (archive.map Member.name).Nodup := by
  unfold Archive.ofFile at read
  generalize occurrences endSignature file = positions at read
  generalize Error.format (.archive "no end record") = fault at read
  induction positions generalizing fault with
  | nil => cases read
  | cons position positions ih =>
    rw [Archive.ofEndRecords] at read
    split at read
    · exact ih _ read
    · rename_i place _
      split at read
      · rename_i found sound
        cases read
        unfold DirectoryPlace.archive at sound
        split at sound
        · exact place.nodup_members sound List.nodup_nil
        · cases sound
      · exact ih _ read

/-! ## The pass -/

theorem getElem?_concat_eq_some_iff {α : Type} {as : List α} {a b : α} {i : Nat} :
    (as ++ [a])[i]? = some b ↔ as[i]? = some b ∨ i = as.length ∧ a = b := by
  rcases Nat.lt_trichotomy i as.length with early | rfl | late
  · simp [List.getElem?_append_left early, Nat.ne_of_lt early]
  · simp
  · have outside : (as ++ [a]).length ≤ i := by
      rw [List.length_append]
      exact late
    simp [List.getElem?_eq_none outside, List.getElem?_eq_none (Nat.le_of_lt late),
      Nat.ne_of_gt late]

namespace Index

/-- What holds of an index behind some members: it lists their files, and a name leads to the place
of the file with that name. -/
structure Behind (archive : Archive) (index : Index) : Prop where
  entries : index.entries = archive.index
  places : ∀ name place, index.places.lookup name = some place ↔
    ∃ entry, archive.index[place]? = some entry ∧ entry.name = name

theorem behind_nil : Behind [] {} where
  entries := rfl
  places _ _ := ⟨nofun, nofun⟩

end Index

theorem Archive.index_concat (archive : Archive) (m : Member) :
    Archive.index (archive ++ [m]) =
      archive.index ++ if m.isDirectory then [] else [.of m archive.length] := by
  have last : Archive.indexFrom archive.length [m] =
      if m.isDirectory then [] else [.of m archive.length] := by
    cases kind : m.isDirectory <;> simp [Archive.indexFrom, kind]
  have parts := Archive.indexFrom_append 0 archive [m]
  rw [Nat.zero_add, last] at parts
  exact parts

namespace Index

/-- One more member is taken in as it should be, if its name is new. A directory changes nothing,
and that is where the two numbers part. -/
theorem Behind.add {archive : Archive} {index : Index} (behind : Behind archive index) {m : Member}
    (fresh : m.name ∉ archive.map Member.name) :
    Behind (archive ++ [m]) (index.add m archive.length) := by
  unfold Index.add
  cases kind : m.isDirectory with
  | true =>
    have same : Archive.index (archive ++ [m]) = archive.index := by
      rw [Archive.index_concat, kind, if_pos rfl, List.append_nil]
    refine ⟨?_, ?_⟩ <;> rw [same, if_pos rfl]
    · exact behind.entries
    · exact behind.places
  | false =>
    have listed : Archive.index (archive ++ [m]) = archive.index ++ [.of m archive.length] := by
      rw [Archive.index_concat, kind, if_neg Bool.false_ne_true]
    have other {entry : Entry} (earlier : entry ∈ archive.index) : entry.name ≠ m.name := by
      intro same
      have named : entry.name ∈ archive.index.map Entry.name := List.mem_map_of_mem earlier
      rw [Archive.names_index, same] at named
      exact fresh ((List.filter_sublist.map _).subset named)
    rw [if_neg Bool.false_ne_true]
    refine ⟨by rw [listed, ← behind.entries], fun name place => ?_⟩
    simp only [listed, getElem?_concat_eq_some_iff, behind.entries, List.lookup_cons]
    by_cases same : name = m.name
    · subst same
      rw [BEq.rfl]
      constructor
      · rintro ⟨⟩
        exact ⟨_, .inr ⟨rfl, rfl⟩, rfl⟩
      · rintro ⟨entry, here | ⟨rfl, _⟩, named⟩
        · exact absurd named (other (List.mem_of_getElem? here))
        · rfl
    · rw [beq_eq_false_iff_ne.mpr same]
      refine (behind.places name place).trans ⟨?_, ?_⟩
      · rintro ⟨entry, here, named⟩
        exact ⟨entry, .inl here, named⟩
      · rintro ⟨entry, here | ⟨_, rfl⟩, named⟩
        · exact ⟨entry, here, named⟩
        · exact absurd named.symm same

theorem Behind.addFrom {archive rest : Archive} {index : Index} (behind : Behind archive index)
    (distinct : ((archive ++ rest).map Member.name).Nodup) :
    Behind (archive ++ rest) (index.addFrom archive.length rest) := by
  induction rest generalizing archive index with
  | nil =>
    rw [List.append_nil]
    exact behind
  | cons m rest ih =>
    have next := behind.add (Archive.not_mem_before distinct)
    rw [List.append_cons] at distinct ⊢
    have later := ih next distinct
    rwa [List.length_append] at later

theorem behind_build {archive : Archive} (distinct : (archive.map Member.name).Nodup) :
    Behind archive (build archive) :=
  @Behind.addFrom [] archive {} behind_nil distinct

theorem Behind.get?_eq_some_iff {archive : Archive} {index : Index} (behind : Behind archive index)
    {name : String} {entry : Entry} :
    index.get? name = some entry ↔ entry ∈ archive.index ∧ entry.name = name := by
  rw [get?, Option.bind_eq_some_iff, behind.entries]
  constructor
  · rintro ⟨place, leads, here⟩
    obtain ⟨found, there, named⟩ := (behind.places name place).mp leads
    obtain rfl := Option.some.inj (here.symm.trans there)
    exact ⟨List.mem_of_getElem? here, named⟩
  · rintro ⟨listed, named⟩
    obtain ⟨place, here⟩ := List.mem_iff_getElem?.mp listed
    exact ⟨place, (behind.places name place).mpr ⟨entry, here, named⟩, here⟩

end Index

/-! ## What the index says -/

namespace Archive

theorem nodup_names_index {archive : Archive} (distinct : (archive.map Member.name).Nodup) :
    (archive.index.map Entry.name).Nodup := by
  rw [names_index]
  exact distinct.sublist (List.filter_sublist.map _)

theorem entry?_eq_some_iff {archive : Archive} (distinct : (archive.map Member.name).Nodup)
    {name : String} {entry : Entry} :
    archive.entry? name = some entry ↔ entry ∈ archive.index ∧ entry.name = name := by
  constructor
  · intro found
    exact ⟨List.mem_of_find?_eq_some found, by simpa using List.find?_some found⟩
  · rintro ⟨listed, named⟩
    cases found : archive.entry? name with
    | none =>
      have missed := List.find?_eq_none.mp found entry listed
      exact absurd (decide_eq_true named) missed
    | some other =>
      have same : other.name = name := by simpa using List.find?_some found
      exact congrArg some (List.inj_on_of_nodup_map (nodup_names_index distinct)
        (List.mem_of_find?_eq_some found) listed (same.trans named.symm))

/-- What an entry says is true of a member: where it stands, and what its header says. -/
structure Describes (archive : Archive) (entry : Entry) (m : Member) : Prop where
  position : archive[entry.position]? = some m
  name : entry.name = m.name
  size : entry.size = m.size
  method : entry.method = m.packing.method

theorem describes_of {archive : Archive} {m : Member} {position : Nat}
    (here : archive[position]? = some m) : archive.Describes (.of m position) m :=
  ⟨here, rfl, rfl, rfl⟩

theorem Describes.memberOf {archive : Archive} {entry : Entry} {m : Member}
    (describes : archive.Describes entry m) : archive.memberOf entry = .ok m := by
  unfold Archive.memberOf
  rw [describes.position]

theorem Describes.contentOf {archive : Archive} {entry : Entry} {m : Member}
    (describes : archive.Describes entry m) : archive.contentOf entry = m.content := by
  rw [Archive.contentOf, bind_of_eq_ok describes.memberOf]

theorem describes_of_mem_index {archive : Archive} {entry : Entry} (listed : entry ∈ archive.index) :
    ∃ m, archive.Describes entry m ∧ isFile m = true := by
  obtain ⟨⟨m, position⟩, kept, rfl⟩ := List.mem_map.mp listed
  obtain ⟨placed, file⟩ := List.mem_filter.mp kept
  exact ⟨m, describes_of (List.mem_zipIdx_iff_getElem?.mp placed), file⟩

/-- The index lists the files and nothing else, in the order of the archive. By induction over the
members that are still to come; those in front of them set the first position. -/
theorem describes_indexFrom (before rest : Archive) :
    List.Forall₂ (Describes (before ++ rest)) (indexFrom before.length rest)
      (rest.filter isFile) := by
  induction rest generalizing before with
  | nil => exact .nil
  | cons m rest ih =>
    have later := ih (before ++ [m])
    rw [← List.append_cons, List.length_append] at later
    cases kind : m.isDirectory with
    | true => simpa [indexFrom, isFile, List.zipIdx_cons, kind] using later
    | false =>
      have here : (before ++ m :: rest)[before.length]? = some m := by simp
      have first := describes_of here
      have both := List.Forall₂.cons first later
      simpa [indexFrom, isFile, List.zipIdx_cons, kind] using both

theorem describes_index (archive : Archive) :
    List.Forall₂ archive.Describes archive.index (archive.filter isFile) :=
  describes_indexFrom [] archive

theorem ordered_index (archive : Archive) :
    archive.index.Pairwise (·.position < ·.position) := by
  have positions : (archive.zipIdx.map Prod.snd).Pairwise (· < ·) := by
    rw [List.zipIdx_map_snd]
    exact List.pairwise_lt_range'
  exact List.pairwise_map.mpr ((List.pairwise_map.mp positions).filter _)

end Archive

namespace Index

/-- An index agrees with an archive in all that it says. -/
structure Agrees (archive : Archive) (index : Index) : Prop where
  /-- One entry for each file, and none for a directory. -/
  lists : List.Forall₂ archive.Describes index.entries (archive.filter Archive.isFile)
  ordered : index.entries.Pairwise (·.position < ·.position)
  found_iff : ∀ name, (∃ entry, index.get? name = some entry) ↔
    ∃ m ∈ archive, m.isDirectory = false ∧ m.name = name
  found : ∀ name entry, index.get? name = some entry →
    ∃ m, archive.Describes entry m ∧ m.isDirectory = false ∧ m.name = name
  alone : ∀ name entry, index.get? name = some entry →
    ∀ position m, archive[position]? = some m → m.name = name → position = entry.position

theorem Behind.agrees {archive : Archive} {index : Index} (behind : Behind archive index)
    (distinct : (archive.map Member.name).Nodup) : Agrees archive index where
  lists := by
    rw [behind.entries]
    exact archive.describes_index
  ordered := by
    rw [behind.entries]
    exact archive.ordered_index
  found_iff name := by
    simp only [behind.get?_eq_some_iff]
    constructor
    · rintro ⟨entry, listed, named⟩
      obtain ⟨m, describes, file⟩ := Archive.describes_of_mem_index listed
      have member : m ∈ archive := List.mem_of_getElem? describes.position
      exact ⟨m, member, by simpa [Archive.isFile] using file, describes.name.symm.trans named⟩
    · rintro ⟨m, member, file, named⟩
      have title : m.name ∈ archive.index.map Entry.name := by
        rw [Archive.names_index]
        exact List.mem_map_of_mem (List.mem_filter.mpr ⟨member, by simp [Archive.isFile, file]⟩)
      obtain ⟨entry, listed, same⟩ := List.mem_map.mp title
      exact ⟨entry, listed, same.trans named⟩
  found name entry leads := by
    obtain ⟨listed, named⟩ := behind.get?_eq_some_iff.mp leads
    obtain ⟨m, describes, file⟩ := Archive.describes_of_mem_index listed
    exact ⟨m, describes, by simpa [Archive.isFile] using file, describes.name.symm.trans named⟩
  alone name entry leads position m here title := by
    obtain ⟨listed, named⟩ := behind.get?_eq_some_iff.mp leads
    obtain ⟨m', describes, _⟩ := Archive.describes_of_mem_index listed
    have one : (archive.map Member.name)[position]? = some name := by simp [here, title]
    have other : (archive.map Member.name)[entry.position]? = some name := by
      simp [describes.position, ← describes.name, named]
    have within := (List.getElem?_eq_some_iff.mp one).1
    exact (List.getElem?_inj within distinct).mp (one.trans other.symm)

theorem Behind.get?_eq {archive : Archive} {index : Index} (behind : Behind archive index)
    (distinct : (archive.map Member.name).Nodup) (name : String) :
    index.get? name = archive.entry? name :=
  Option.ext fun _ =>
    behind.get?_eq_some_iff.trans (Archive.entry?_eq_some_iff distinct).symm

end Index
end Bindery.Zip
