import Bindery.Proofs.ReadingOrder.Repackage

/-! What a destination of a package holds when it is started. The standalone manifests of the package
come first, then the files that are listed beside its reading order, and nothing is there twice. If
a listed file is missing, no destination is started. -/
namespace Bindery

/-- The names of a list, each of them once, in the order in which they first occur. -/
structure FirstOccurrences (names all : List String) : Prop where
  distinct : names.Nodup
  mem_iff : ∀ name, name ∈ names ↔ name ∈ all
  order : names.Pairwise fun a b => all.idxOf a < all.idxOf b

namespace ReadingOrder

open Zip (Archive Entry Member Output)

/-! ## Names without repetitions -/

def InOrder (all : List String) : Prop :=
  all.eraseDups.Pairwise fun a b => all.idxOf a < all.idxOf b

theorem InOrder.concat {front : List String} (ordered : InOrder front) (name : String) :
    InOrder (front ++ [name]) := by
  have index {a : String} (listed : a ∈ front) : (front ++ [name]).idxOf a = front.idxOf a := by
    rw [List.idxOf_append, if_pos listed]
  unfold InOrder
  rw [List.eraseDups_append, List.pairwise_append]
  refine ⟨?_, ?_, ?_⟩
  · refine ordered.imp_of_mem fun {a b} first second before => ?_
    rw [index (List.mem_eraseDups.mp first), index (List.mem_eraseDups.mp second)]
    exact before
  · by_cases taken : name ∈ front
    · simp [List.removeAll, taken]
    · simp [List.removeAll, taken, List.eraseDups_cons]
  · intro a first b second
    have listed : a ∈ front := List.mem_eraseDups.mp first
    obtain ⟨last, fresh⟩ : b = name ∧ b ∉ front := by
      simpa [List.removeAll] using List.mem_eraseDups.mp second
    rw [index listed, List.idxOf_append, if_neg fresh]
    exact Nat.lt_of_lt_of_le (List.idxOf_lt_length_of_mem listed) (Nat.le_add_left _ _)

theorem InOrder.append {front : List String} (ordered : InOrder front) (rest : List String) :
    InOrder (front ++ rest) := by
  induction rest generalizing front with
  | nil =>
    rw [List.append_nil]
    exact ordered
  | cons name rest ih =>
    have longer := ih (ordered.concat name)
    rw [List.append_assoc] at longer
    exact longer

theorem firstOccurrences_eraseDups (all : List String) : FirstOccurrences all.eraseDups all where
  distinct := nodup_eraseDups all
  mem_iff := fun _ => List.mem_eraseDups
  order := @InOrder.append [] List.Pairwise.nil all

theorem find?_eraseDups (q : String → Bool) (names : List String) :
    names.eraseDups.find? q = names.find? q := by
  match names with
  | [] => rfl
  | name :: rest =>
    rw [List.eraseDups_cons, List.find?_cons, List.find?_cons]
    cases kind : q name with
    | true => rfl
    | false =>
      have same : (fun other => decide ((!other == name) = true ∧ q other = true)) = q := by
        funext other
        by_cases here : other = name
        · simp [here, kind]
        · simp [here]
      have others := find?_eraseDups q (rest.filter fun other => !other == name)
      rw [List.find?_filter, same] at others
      exact others
termination_by names.length
decreasing_by exact Nat.lt_succ_of_le (List.length_filter_le _ _)

/-! ## Destinations that are started -/

namespace Package

variable {p : Package}

def manifests (p : Package) : List String :=
  standalone.filter fun name => (p.archive.entry? name).isSome

/-- What a destination of a package is to hold at first: its standalone manifests and what is listed
beside its reading order, in the packed form that they have in the package. -/
structure Seeds (p : Package) (present : Archive) : Prop where
  names : FirstOccurrences (present.map Member.name)
    (p.manifests ++ p.publication.resources.map Link.href)
  untouched : ∀ m ∈ present, ∃ entry source, p.archive.entry? m.name = some entry ∧
    p.archive.memberOf entry = .ok source ∧ m = { source with encrypted := false } ∧
    ∀ bytes, source.content = .ok bytes → m.content = .ok bytes

theorem seeds_of_takenOver {present : Archive} (taken : p.carried.mapM p.takenOver = .ok present) :
    p.Seeds present where
  names := by
    rw [names_of_takenOver taken]
    exact firstOccurrences_eraseDups _
  untouched := by
    intro m listed
    obtain ⟨name, _, here⟩ := of_mem_mapM_list taken listed
    obtain ⟨rfl, entry, source, found, held, same⟩ := takenOver_ok here
    exact ⟨entry, source, found, held, same, fun _ ran => same ▸ Member.content_unencrypted ran⟩

theorem carry_of_missing {name : String} (missing : p.archive.entry? name = none) (o : Output) :
    p.carry name o = .error (.missing (.entry name)) o := by
  unfold carry
  exact Action.bind_of_error (Action.ofResult_of_error (Archive.entry_of_missing missing))

/-- What is taken over before the first missing name has no part in the failure. -/
theorem forM_carry_of_missing {names : List String} {name : String} {o : Output}
    (takes : o.device.refused = none)
    (found : names.find? (fun name => (p.archive.entry? name).isNone) = some name)
    (distinct : names.Nodup) (fresh : ∀ name ∈ names, name ∉ o.names) :
    ∃ o', (names.forM p.carry : Action Output Unit) o = .error (.missing (.entry name)) o' := by
  obtain ⟨missing, front, rest, rfl, before⟩ := List.find?_eq_some_iff_append.mp found
  have present : ∀ name ∈ front, (p.archive.entry? name).isSome = true := by
    intro name listed
    simpa using before name listed
  have apart := (List.nodup_append.mp distinct).1
  obtain ⟨o', carried⟩ := forM_carry_of_taken takes present apart fun name listed =>
    fresh name (List.mem_append_left _ listed)
  refine ⟨o', ?_⟩
  have chain : ((front ++ name :: rest).forM p.carry : Action Output Unit) =
      front.forM p.carry >>= fun _ => p.carry name >>= fun _ => rest.forM p.carry :=
    List.forM_append
  have failed := carry_of_missing (Option.isNone_iff_eq_none.mp missing) o'
  rw [chain, Action.bind_of_ok carried]
  exact Action.bind_of_error failed

theorem newWriter_of_missing {link : Link} {device : Device} (takes : device.refused = none)
    (found : p.publication.resources.find? (fun link => (p.archive.entry? link.href).isNone) =
      some link) : p.newWriter device = .error (.missing (.entry link.href)) := by
  have none : p.manifests.find? (fun name => (p.archive.entry? name).isNone) = none := by
    refine List.find?_eq_none.mpr fun name listed => ?_
    have there := (List.mem_filter.mp listed).2
    simpa [Option.isSome_iff_ne_none] using there
  have first : p.carried.find? (fun name => (p.archive.entry? name).isNone) = some link.href := by
    change (p.manifests ++ p.publication.resources.map Link.href).eraseDups.find? _ = _
    rw [find?_eraseDups, List.find?_append, none, Option.none_or, List.find?_map]
    exact Option.map_eq_some_iff.mpr ⟨link, found, rfl⟩
  obtain ⟨o, failed⟩ := forM_carry_of_missing (o := { device }) takes first p.nodup_carried
    fun _ _ => List.not_mem_nil
  unfold newWriter
  simp only [Action.perform_of_error failed]
  rfl

end Package
end ReadingOrder
end Bindery
