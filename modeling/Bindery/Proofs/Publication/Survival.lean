import Bindery.Proofs.Json.Member
import Bindery.Proofs.Publication.Whole
import Mathlib.Data.List.Forall2

/-! What a manifest keeps when it is read and written again, said of the two texts alone. At each
level the members with a field of their own keep their values, and all others occur with the value
that the last of them has in the source. -/
namespace Bindery

open Json (Members Value)

/-! ## Levels of a manifest, in the source and as they are written -/

/-- Values that differ at most in the order of members and in repetitions before the last one. -/
def SameValue (source written : Value) : Prop := source.canonical = written.canonical

def Objects (kept : Members → Members → Prop) : Value → Value → Prop
  | .object source, .object written => kept source written
  | _, _ => False

def given? (name : String) (members : Members) : Option Value :=
  match Members.last? name members with
  | some .null => none
  | found => found

/-- Apart from the typed names, the members of the source occur once each, with the value of the
last of them; and none is added but those that are always written. -/
structure Kept (typed always : List String) (source written : Members) : Prop where
  once : (written.map Prod.fst).Nodup
  others : ∀ name ∉ typed,
    Option.Rel SameValue (Members.last? name source) (Members.last? name written)
  added : ∀ name ∈ written.map Prod.fst, name ∈ source.map Prod.fst ∨ name ∈ always

structure ProtectionKept (source written : Members) : Prop
    extends Kept ["scheme", "profile", "algorithm"] [] source written where
  texts : ∀ name ∈ ["scheme", "profile", "algorithm"],
    Members.last? name written = Members.last? name source

structure PropertiesKept (source written : Members) : Prop
    extends Kept ["encrypted"] [] source written where
  protection : Option.Rel (Objects ProtectionKept) (given? "encrypted" source)
    (given? "encrypted" written)

/-- An empty type counts as none. -/
structure LinkKept (source written : Members) : Prop
    extends Kept ["href", "type", "properties"] [] source written where
  href : Members.last? "href" written = Members.last? "href" source
  type : (Members.last? "type" written).getD (.string "") =
    (Members.last? "type" source).getD (.string "")
  properties : Option.Rel (Objects PropertiesKept) (given? "properties" source)
    (given? "properties" written)

structure MetadataKept (source written : Members) : Prop
    extends Kept ["title"] [] source written where
  title : Option.Rel SameValue (given? "title" source) (given? "title" written)

def LinksKept : Value → Value → Prop
  | .array source, .array written => List.Forall₂ (Objects LinkKept) source written
  | _, _ => False

/-- Missing metadata count as empty, and so do missing lists of links. -/
structure PublicationKept (source written : Members) : Prop
    extends Kept ["@context", "metadata", "readingOrder", "resources"] ["metadata", "readingOrder"]
      source written where
  context : Option.Rel SameValue (given? "@context" source) (given? "@context" written)
  metadata : Objects MetadataKept ((Members.last? "metadata" source).getD (.object []))
    ((Members.last? "metadata" written).getD (.object []))
  links : ∀ name ∈ ["readingOrder", "resources"],
    LinksKept ((Members.last? name source).getD (.array []))
      ((Members.last? name written).getD (.array []))

/-! ## Members that are read -/

theorem last?_of_known {name : String} {members : Members} {found : Option Value}
    (seen : known name members = .ok found) : Members.last? name members = found := by
  have same := @Members.last?_filter Value name (fun member => member.1 = name) (by simp) members
  rw [← same]
  unfold known at seen
  split at seen
  · rename_i none
    cases seen
    rw [none]
    rfl
  · rename_i n v one
    cases seen
    have listed : (n, v) ∈ members.filter (·.1 = name) := one ▸ List.mem_singleton_self _
    have same : n = name := of_decide_eq_true (List.mem_filter.mp listed).2
    rw [one, Members.last?_cons, if_pos same.symm]
    rfl
  · cases seen

theorem given?_of_knownOption {name : String} {members : Members} {found : Option Value}
    (seen : knownOption name members = .ok found) : given? name members = found := by
  obtain ⟨value, seen, rest⟩ := ok_of_bind seen
  unfold given?
  rw [last?_of_known seen]
  split at rest
  · cases rest
    rfl
  · rename_i other
    cases rest
    cases found with
    | none => rfl
    | some v =>
      cases v with
      | null => exact absurd rfl other
      | _ => rfl

theorem last?_others {names : List String} {name : String} (other : name ∉ names)
    (members : Members) :
    Members.last? name (others names members) =
      (Members.last? name members).map Value.canonical := by
  unfold others
  rw [Members.last?_sort, Json.last?_canonicalMembers, Members.last?_filter]
  simpa using other

theorem rel_sameValue_canonical (found : Option Value) :
    Option.Rel SameValue found (found.map Value.canonical) := by
  cases found with
  | none => exact .none
  | some v =>
    exact .some (Json.canonical_of_isCanonical _ (Json.isCanonical_canonical v)).symm

namespace HasFields

variable {names always : List String} {source written extra : Members}
  {fields : List (String × Option Value)}

theorem nodup (has : HasFields names written fields extra) : (written.map Prod.fst).Nodup := by
  obtain ⟨rfl, rfl, distinct, rest⟩ := has
  rw [List.map_append, List.nodup_append]
  refine ⟨distinct.sublist (sublist_names_fieldMembers fields), ?_, ?_⟩
  · refine List.Pairwise.imp ?_ rest.sorted
    rintro name _ before rfl
    exact String.lt_irrefl name before
  · rintro name listed other there rfl
    exact rest.apart name (names_fieldMembers listed) there

/-- What a level keeps whose other members are those of the source: it has no field that neither
the source has nor is always written. -/
theorem kept (has : HasFields names written fields (Bindery.others names source))
    (seen : ∀ field ∈ fields, field.2.isSome = true →
      (Members.last? field.1 source).isSome = true ∨ field.1 ∈ always) :
    Kept names always source written where
  once := has.nodup
  others := fun name other => by
    obtain ⟨rfl, rfl, _, _⟩ := has
    have none : Members.last? name (fieldMembers fields) = none :=
      Members.last?_eq_none fun listed => other (names_fieldMembers listed)
    rw [Members.last?_append, none, Option.or_none, last?_others other]
    exact rel_sameValue_canonical _
  added := fun name listed => by
    rw [has.form, List.map_append, List.mem_append] at listed
    rcases listed with field | other
    · obtain ⟨member, held, rfl⟩ := List.mem_map.mp field
      obtain ⟨⟨n, value⟩, listed, given⟩ := List.mem_flatMap.mp held
      cases value with
      | none => cases given
      | some v =>
        obtain rfl := List.mem_singleton.mp given
        exact (seen _ listed rfl).imp_left Members.isSome_last?_iff.mp
    · obtain ⟨member, held, rfl⟩ := List.mem_map.mp other
      obtain ⟨v, there, _, _⟩ := mem_of_mem_others held
      exact .inl (List.mem_map.mpr ⟨_, there, rfl⟩)

end HasFields

/-! ## What each level keeps -/

theorem last?_of_requiredText {name s : String} {members : Members}
    (read : requiredText name members = .ok s) :
    Members.last? name members = some (.string s) :=
  last?_of_known (requiredText_ok read)

theorem Protection.kept {v : Value} {p : Protection} (read : ofValue v = .ok p) :
    Objects ProtectionKept v p.toValue := by
  obtain ⟨source, rfl, ⟨scheme, profile, algorithm⟩, extra⟩ := ofValue_ok read
  obtain ⟨written, form, has⟩ := hasFields (normal_of_ofValue read)
  rw [extra] at has
  rw [form]
  have first := last?_of_requiredText scheme
  have second := last?_of_requiredText profile
  have third := last?_of_requiredText algorithm
  refine { has.kept (by simp [first, second, third]) with texts := ?_ }
  simp [first, second, third, last?_of_known (has.known _)]

theorem rel_of_mapM {α : Type} {read : Value → Result α} {write : α → Value}
    {kept : Value → Value → Prop} (each : ∀ {v a}, read v = .ok a → kept v (write a))
    {found : Option Value} {made : Option α} (mapped : found.mapM read = .ok made) :
    Option.Rel kept found (made.map write) := by
  cases found with
  | none =>
    rw [mapM_none_ok mapped]
    exact .none
  | some v =>
    obtain ⟨a, ran, rfl⟩ := mapM_some_ok mapped
    exact .some (each ran)

theorem isSome_last?_of_knownOption {name : String} {members : Members} {found : Option Value}
    (seen : knownOption name members = .ok found) (given : found.isSome = true) :
    (Members.last? name members).isSome = true := by
  obtain ⟨v, rfl⟩ := Option.isSome_iff_exists.mp given
  exact Members.isSome_last?_iff.mpr (List.mem_map_of_mem (mem_of_knownOption seen).1)

theorem isSome_last?_of_mapM {α : Type} {read : Value → Result α} {write : α → Value}
    {name : String} {members : Members} {found : Option Value} {made : Option α}
    (seen : knownOption name members = .ok found) (mapped : found.mapM read = .ok made)
    (written : (made.map write).isSome = true) : (Members.last? name members).isSome = true := by
  refine isSome_last?_of_knownOption seen ?_
  cases found with
  | none =>
    rw [mapM_none_ok mapped] at written
    cases written
  | some v => rfl

theorem Properties.kept {v : Value} {p : Properties} (read : ofValue v = .ok p) :
    Objects PropertiesKept v p.toValue := by
  obtain ⟨source, rfl, ⟨found, seen, mapped⟩, extra⟩ := ofValue_ok read
  obtain ⟨written, form, has⟩ := hasFields (normal_of_ofValue read)
  rw [extra] at has
  rw [form]
  have again := has.option (List.mem_singleton_self _)
    (map_toValue_ne_null Protection.toValue_ne_null _)
  refine { has.kept ?_ with protection := ?_ }
  · exact List.forall_mem_singleton.mpr fun some => .inl (isSome_last?_of_mapM seen mapped some)
  · rw [given?_of_knownOption seen, given?_of_knownOption again]
    exact rel_of_mapM Protection.kept mapped

theorem Link.kept {v : Value} {link : Link} (read : ofValue v = .ok link) :
    Objects LinkKept v link.toValue := by
  obtain ⟨source, rfl, href, ⟨found, made, typed, text, type⟩, ⟨given, seen, mapped⟩, extra⟩ :=
    ofValue_ok read
  obtain ⟨written, form, has⟩ := hasFields (normal_of_ofValue read)
  rw [extra] at has
  rw [form]
  have first := last?_of_requiredText href
  have again : knownOption "properties" written = .ok (link.properties.map Properties.toValue) :=
    has.option (by simp) (map_toValue_ne_null Properties.toValue_ne_null _)
  have typedAgain : known "type" written =
      .ok (if link.type = "" then none else some (.string link.type)) := has.known (by simp)
  have value : found.getD (.string "") = .string link.type := by
    rw [type]
    cases found with
    | none =>
      rw [mapM_none_ok text]
      rfl
    | some w =>
      obtain ⟨s, ran, rfl⟩ := mapM_some_ok text
      exact textOf_ok ran
  refine { has.kept ?_ with href := ?_, type := ?_, properties := ?_ }
  · refine List.forall_mem_cons.mpr ⟨fun _ => .inl (by rw [first]; rfl), ?_⟩
    refine List.forall_mem_cons.mpr ⟨fun some => .inl ?_, ?_⟩
    · rw [last?_of_known typed]
      cases found with
      | none =>
        have empty : link.type = "" := (Value.string.inj value).symm
        rw [if_pos empty] at some
        cases some
      | some w => rfl
    · exact List.forall_mem_singleton.mpr fun some => .inl (isSome_last?_of_mapM seen mapped some)
  · rw [first, last?_of_known (has.known (List.mem_cons_self))]
  · rw [last?_of_known typed, last?_of_known typedAgain, value]
    split
    · rename_i empty
      rw [empty]
      rfl
    · rfl
  · rw [given?_of_knownOption seen, given?_of_knownOption again]
    exact rel_of_mapM Properties.kept mapped

theorem members_of_texts {members : Members} {texts : List (String × String)}
    (mapped : members.mapM (fun (tag, v) => do .ok (tag, ← textOf "a title" v)) = .ok texts) :
    members = texts.map fun text => (text.1, .string text.2) := by
  refine (map_back_of_mapM mapped fun member text here => ?_).symm
  obtain ⟨s, one, same⟩ := ok_of_bind here
  cases same
  rw [← textOf_ok one]

theorem Title.kept {v : Value} {title : Title} (read : ofValue v = .ok title) :
    SameValue v title.toValue := by
  cases v with
  | string text =>
    cases read
    rfl
  | object members =>
    obtain ⟨texts, mapped, rest⟩ := ok_of_bind read
    cases rest
    rw [members_of_texts mapped]
    let write (text : String × String) : String × Value := (text.1, .string text.2)
    have plain (texts : List (String × String)) :
        Json.canonicalMembers (texts.map write) = texts.map write := by
      refine Json.canonicalMembers_of_areCanonical _ ((Members.areCanonical_iff _).mpr ?_)
      exact List.forall_mem_map.mpr fun _ _ => trivial
    have sorted : (Members.sort texts).map write = Members.sort (texts.map write) :=
      Members.map_sort Value.string texts
    refine congrArg Value.object ?_
    change Members.sort (Json.canonicalMembers (texts.map write)) =
      Members.sort (Json.canonicalMembers ((Members.sort texts).map write))
    rw [plain, plain, sorted, Members.sort_of_sorted (Members.sorted_sort _)]
  | null => cases read
  | bool b => cases read
  | number n => cases read
  | array items => cases read

theorem Metadata.kept {v : Value} {m : Metadata} (read : ofValue v = .ok m) :
    Objects MetadataKept v m.toValue := by
  obtain ⟨source, rfl, ⟨found, seen, mapped⟩, extra⟩ := ofValue_ok read
  obtain ⟨written, form, has⟩ := hasFields (normal_of_ofValue read)
  rw [extra] at has
  rw [form]
  have again := has.option (List.mem_singleton_self _)
    (map_toValue_ne_null Title.toValue_ne_null _)
  refine { has.kept ?_ with title := ?_ }
  · exact List.forall_mem_singleton.mpr fun some => .inl (isSome_last?_of_mapM seen mapped some)
  · rw [given?_of_knownOption seen, given?_of_knownOption again]
    exact rel_of_mapM Title.kept mapped

theorem kept_of_mapM {items : List Value} {links : List Link}
    (mapped : items.mapM Link.ofValue = .ok links) :
    List.Forall₂ (Objects LinkKept) items (links.map Link.toValue) := by
  induction items generalizing links with
  | nil =>
    cases mapped
    exact .nil
  | cons v items ih =>
    rw [List.mapM_cons] at mapped
    obtain ⟨link, here, mapped⟩ := ok_of_bind mapped
    obtain ⟨others, there, mapped⟩ := ok_of_bind mapped
    cases mapped
    exact .cons (Link.kept here) (ih there)

theorem kept_of_linksOf {name : String} {members : Members} {links : List Link}
    (read : linksOf name members = .ok links) :
    LinksKept ((Members.last? name members).getD (.array []))
      (.array (links.map Link.toValue)) := by
  obtain ⟨found, seen, rest⟩ := ok_of_bind read
  rw [last?_of_known seen]
  split at rest
  · cases rest
    exact .nil
  · exact kept_of_mapM rest
  · cases rest

theorem Publication.kept {v : Value} {p : Publication} (read : ofValue v = .ok p) :
    Objects PublicationKept v p.toValue := by
  obtain ⟨source, rfl, ⟨context, first, given⟩, ⟨metadata, made, second, mapped, described⟩,
    third, fourth, extra⟩ := ofValue_ok read
  have normal := normal_of_ofValue read
  obtain ⟨written, form, has⟩ := hasFields normal
  rw [extra] at has
  rw [form]
  have contextAgain : knownOption "@context" written = .ok p.context :=
    has.option (by simp) fun null => (normal.context _ null).2 rfl
  have metadataAgain : known "metadata" written = .ok (some p.metadata.toValue) :=
    has.known (by simp)
  have orderAgain : known "readingOrder" written =
      .ok (some (.array (p.readingOrder.map Link.toValue))) := has.known (by simp)
  have resourcesAgain : known "resources" written = .ok (if p.resources = [] then none
      else some (.array (p.resources.map Link.toValue))) := has.known (by simp)
  refine { has.kept ?_ with context := ?_, metadata := ?_, links := ?_ }
  · refine List.forall_mem_cons.mpr ⟨fun some => .inl ?_, ?_⟩
    · rw [given, Option.isSome_map] at some
      exact isSome_last?_of_knownOption first some
    refine List.forall_mem_cons.mpr ⟨fun _ => .inr (by simp), ?_⟩
    refine List.forall_mem_cons.mpr ⟨fun _ => .inr (by simp), ?_⟩
    refine List.forall_mem_singleton.mpr fun some => .inl ?_
    rcases linksOf_ok fourth with none | ⟨items, member, _⟩
    · rw [if_pos none] at some
      cases some
    · exact Members.isSome_last?_iff.mpr (List.mem_map_of_mem member)
  · rw [given?_of_knownOption first, given?_of_knownOption contextAgain, given]
    exact rel_sameValue_canonical context
  · rw [last?_of_known second, last?_of_known metadataAgain, described]
    cases metadata with
    | none =>
      rw [mapM_none_ok mapped]
      have empty : Metadata.ofValue (.object []) = .ok {} := rfl
      exact Metadata.kept empty
    | some u =>
      obtain ⟨m, ran, rfl⟩ := mapM_some_ok mapped
      exact Metadata.kept ran
  · refine List.forall_mem_cons.mpr ⟨?_, List.forall_mem_singleton.mpr ?_⟩
    · rw [last?_of_known orderAgain]
      exact kept_of_linksOf third
    · rw [last?_of_known resourcesAgain]
      have all := kept_of_linksOf fourth
      split
      · rename_i none
        rw [none] at all
        exact all
      · exact all

/-- Whatever a manifest says beside the typed members survives reading and writing. -/
theorem Publication.members_survive {text : String} {v : Value} {p : Publication}
    (found : Value.read? text.toList = some v) (whole : v.IsWhole) (read : read text = .ok p) :
    ∃ w, Value.read? p.render.toList = some w ∧ Objects PublicationKept v w := by
  have shallow := Json.depth_le_of_read? found
  rw [read_of_value found] at read
  have fits : p.Fits := within_of_ofValue read (by decide) shallow
  exact ⟨p.toValue, value_render fits (isWhole_of_ofValue read whole), kept read⟩

theorem members_survive_annotatedManifest :
    Value.read? annotatedManifest.render.toList = some annotatedManifest ∧
      annotatedManifest.IsWhole ∧ ∃ p, Publication.read annotatedManifest.render = .ok p ∧
      ∃ w, Value.read? p.render.toList = some w ∧ Objects PublicationKept annotatedManifest w := by
  obtain ⟨found, whole, p, read⟩ := read_annotatedManifest
  exact ⟨found, whole, p, read, Publication.members_survive found whole read⟩

end Bindery
