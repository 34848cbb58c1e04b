import Bindery.Proofs.Action
import Bindery.Proofs.Zip.Stored
import Bindery.Zip.Archive

/-! The index of an archive. It lists the files and passes over the directories, and an entry of it
leads to the member that it was made from. -/
namespace Bindery.Zip

/-- A member whose content can be read, at its declared size. -/
def Member.IsWhole (m : Member) : Prop :=
  ∃ content, m.content = .ok content ∧ content.length = m.size

theorem isWhole_ofContent (name : String) (method : Method) (content : Bytes) :
    (Member.ofContent name method content).IsWhole :=
  ⟨content, Member.content_ofContent name method content, rfl⟩

def Member.IsPacked (m : Member) : Prop := ∃ method content, m = .ofContent m.name method content

theorem isPacked_ofContent (name : String) (method : Method) (content : Bytes) :
    (Member.ofContent name method content).IsPacked :=
  ⟨method, content, rfl⟩

theorem Member.IsPacked.isWhole {m : Member} (packed : m.IsPacked) : m.IsWhole := by
  obtain ⟨method, content, same⟩ := packed
  rw [same]
  exact isWhole_ofContent _ _ _

theorem Member.content_unencrypted {m : Member} {bytes : Bytes} (ran : m.content = .ok bytes) :
    ({ m with encrypted := false } : Member).content = .ok bytes := by
  cases kind : m.encrypted with
  | false =>
    have same : { m with encrypted := false } = m := by rw [← kind]
    rw [same]
    exact ran
  | true =>
    have refused : m.content = unsound "a member is encrypted" := by
      unfold content unpacked
      rw [if_pos kind]
      rfl
    rw [refused] at ran
    cases ran

namespace Archive

theorem nodup_behind {archive : Archive} {m : Member} (fresh : m.name ∉ archive.map Member.name)
    (distinct : (archive.map Member.name).Nodup) : ((archive ++ [m]).map Member.name).Nodup := by
  rw [List.map_append]
  have alone : [m.name].Nodup := List.nodup_cons.mpr ⟨List.not_mem_nil, List.nodup_nil⟩
  refine List.nodup_append.mpr ⟨distinct, alone, ?_⟩
  intro a before b last same
  obtain rfl := List.mem_singleton.mp last
  exact fresh (same ▸ before)

def isFile (m : Member) : Bool := !m.isDirectory

theorem isFile_congr {m n : Member} (same : m.name = n.name) : isFile m = isFile n := by
  unfold isFile Member.isDirectory
  rw [same]

theorem isFile_of_name {m : Member} (name : String) (named : m.name = name)
    (file : isFile (.ofContent name .stored []) = true) : isFile m = true :=
  (isFile_congr named).trans file

def indexFrom (position : Nat) (archive : Archive) : List Entry :=
  ((archive.zipIdx position).filter fun (m, _) => !m.isDirectory).map fun (m, p) => .of m p

theorem indexFrom_append (position : Nat) (before after : Archive) :
    indexFrom position (before ++ after) =
      indexFrom position before ++ indexFrom (position + before.length) after := by
  simp only [indexFrom, List.zipIdx_append, List.filter_append, List.map_append]

theorem names_indexFrom (position : Nat) (archive : Archive) :
    (indexFrom position archive).map Entry.name = (archive.filter isFile).map Member.name := by
  induction archive generalizing position with
  | nil => rfl
  | cons m archive ih =>
    have rest := ih (position + 1)
    cases kind : m.isDirectory with
    | true => simpa [indexFrom, isFile, List.zipIdx_cons, kind] using rest
    | false => simpa [indexFrom, isFile, List.zipIdx_cons, kind, Entry.of] using rest

theorem names_index (archive : Archive) :
    archive.index.map Entry.name = (archive.filter isFile).map Member.name :=
  names_indexFrom 0 archive

theorem memberOf_of {archive : Archive} {m : Member} {position : Nat}
    (here : archive[position]? = some m) : archive.memberOf (.of m position) = .ok m := by
  have found : (Entry.of m position).position = position := rfl
  unfold memberOf
  rw [found, here]

theorem memberOf_of_mem {archive : Archive} {entry : Entry} (listed : entry ∈ archive.index) :
    ∃ m, archive.memberOf entry = .ok m ∧ isFile m = true ∧
      entry = .of m entry.position := by
  obtain ⟨⟨m, position⟩, kept, rfl⟩ := List.mem_map.mp listed
  obtain ⟨placed, file⟩ := List.mem_filter.mp kept
  have here : archive[position]? = some m := List.mem_zipIdx_iff_getElem?.mp placed
  exact ⟨m, memberOf_of here, file, rfl⟩

theorem contentOf_of_mem {archive : Archive} (whole : ∀ m ∈ archive, m.IsWhole) {entry : Entry}
    (listed : entry ∈ archive.index) :
    ∃ content, archive.contentOf entry = .ok content ∧ content.length = entry.size := by
  obtain ⟨m, found, _, same⟩ := memberOf_of_mem listed
  have member : m ∈ archive := by
    unfold memberOf at found
    split at found
    · rename_i m' here
      cases found
      exact List.mem_of_getElem? here
    · cases found
  obtain ⟨content, ran, length⟩ := whole m member
  refine ⟨content, ?_, ?_⟩
  · unfold contentOf
    rw [found]
    exact ran
  · rw [same]
    exact length

theorem isSome_entry?_iff (archive : Archive) (name : String) :
    (archive.entry? name).isSome = true ↔ name ∈ (archive.filter isFile).map Member.name := by
  rw [← names_index, entry?, List.find?_isSome, List.mem_map]
  simp only [decide_eq_true_eq]

theorem entry?_behind {before after : Archive} {m : Member} (file : isFile m = true)
    (fresh : m.name ∉ before.map Member.name) :
    entry? (before ++ m :: after) m.name = some (.of m before.length) := by
  have earlier : (indexFrom 0 before).find? (·.name = m.name) = none := by
    refine List.find?_eq_none.mpr fun entry listed same => fresh ?_
    have named : entry.name ∈ (indexFrom 0 before).map Entry.name := List.mem_map_of_mem listed
    rw [names_indexFrom] at named
    rw [← of_decide_eq_true same]
    exact (List.filter_sublist.map _).subset named
  have here : indexFrom before.length (m :: after) =
      .of m before.length :: indexFrom (before.length + 1) after := by
    have kind : m.isDirectory = false := by simpa [isFile] using file
    simp [indexFrom, List.zipIdx_cons, kind]
  change (indexFrom 0 (before ++ m :: after)).find? (·.name = m.name) = _
  rw [indexFrom_append, List.find?_append, earlier, Nat.zero_add, here]
  simp [Entry.of]

theorem memberOf_behind (before after : Archive) (m : Member) :
    memberOf (before ++ m :: after) (.of m before.length) = .ok m := by
  refine memberOf_of ?_
  rw [List.getElem?_append_right (Nat.le_refl _), Nat.sub_self]
  rfl

theorem contentOf_behind (before after : Archive) (m : Member) :
    contentOf (before ++ m :: after) (.of m before.length) = m.content := by
  unfold contentOf
  rw [memberOf_behind]
  rfl

theorem not_mem_before {before after : Archive} {m : Member}
    (distinct : ((before ++ m :: after).map Member.name).Nodup) :
    m.name ∉ before.map Member.name := by
  intro earlier
  rw [List.map_append] at distinct
  exact (List.nodup_append.mp distinct).2.2 _ earlier _ List.mem_cons_self rfl

/-- In an archive whose names are distinct every file is found under its name. -/
theorem entry?_of_mem {archive : Archive} (distinct : (archive.map Member.name).Nodup) {m : Member}
    (listed : m ∈ archive) (file : isFile m = true) :
    ∃ position, archive.entry? m.name = some (.of m position) ∧
      archive.contentOf (.of m position) = m.content := by
  obtain ⟨before, after, rfl⟩ := List.append_of_mem listed
  exact ⟨before.length, entry?_behind file (not_mem_before distinct),
    contentOf_behind before after m⟩

theorem entry_eq_ok_iff {archive : Archive} {name : String} {entry : Entry} :
    archive.entry name = .ok entry ↔ archive.entry? name = some entry := by
  unfold Archive.entry
  cases archive.entry? name with
  | none => exact ⟨nofun, nofun⟩
  | some found => simp

/-- A file of such an archive is read under its name whatever stands behind the archive. -/
theorem read_front {archive rest : Archive} (distinct : (archive.map Member.name).Nodup)
    {m : Member} (listed : m ∈ archive) (file : isFile m = true) :
    read (archive ++ rest) m.name = m.content := by
  obtain ⟨before, after, rfl⟩ := List.append_of_mem listed
  have found : entry? (before ++ m :: (after ++ rest)) m.name = some (.of m before.length) :=
    entry?_behind file (not_mem_before distinct)
  rw [List.append_assoc, List.cons_append, read, bind_of_eq_ok (entry_eq_ok_iff.mpr found)]
  exact contentOf_behind before (after ++ rest) m

theorem entry_of_missing {archive : Archive} {name : String} (missing : archive.entry? name = none) :
    archive.entry name = .error (.missing (.entry name)) := by
  unfold Archive.entry
  rw [missing]

theorem member_of_entry? {archive : Archive} {name : String} {entry : Entry}
    (found : archive.entry? name = some entry) :
    ∃ m, archive.memberOf entry = .ok m ∧ isFile m = true ∧ m.name = name ∧
      entry.method = m.packing.method := by
  obtain ⟨m, held, file, same⟩ := memberOf_of_mem (List.mem_of_find?_eq_some found)
  have named : entry.name = name := by simpa using List.find?_some found
  refine ⟨m, held, file, ?_, ?_⟩
  · rw [same] at named
    exact named
  · rw [same]
    rfl

/-- A file that a second archive holds as well: it is there by the same method, and what is read of
it in the first archive is read of it there. -/
structure SameFile (source copy : Archive) (name : String) : Prop where
  method : ∃ entry again, source.entry? name = some entry ∧ copy.entry? name = some again ∧
    again.method = entry.method
  content : ∀ bytes, source.read name = .ok bytes → copy.read name = .ok bytes

theorem sameFile_of_mem {source copy : Archive} {name : String} {entry : Entry} {m again : Member}
    (found : source.entry? name = some entry) (held : source.memberOf entry = .ok m)
    (method : again.packing.method = entry.method)
    (content : ∀ bytes, m.content = .ok bytes → again.content = .ok bytes)
    (distinct : (copy.map Member.name).Nodup) (listed : again ∈ copy) (named : again.name = name) :
    source.SameFile copy name := by
  obtain ⟨_, same, file, title, _⟩ := member_of_entry? found
  cases held.symm.trans same
  have isFile : isFile again = true := (isFile_congr (named.trans title.symm)).trans file
  obtain ⟨position, there, read⟩ := entry?_of_mem distinct listed isFile
  rw [named] at there
  refine ⟨⟨entry, _, found, there, method⟩, fun bytes ran => ?_⟩
  unfold Archive.read at ran ⊢
  rw [bind_of_eq_ok (entry_eq_ok_iff.mpr found), contentOf, bind_of_eq_ok held] at ran
  rw [bind_of_eq_ok (entry_eq_ok_iff.mpr there), read]
  exact content bytes ran

end Archive
end Bindery.Zip
