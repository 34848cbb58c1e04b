import Bindery.Proofs.Action
import Bindery.Proofs.Json.Canonical
import Bindery.Publication.Printer
import Bindery.Publication.Reader

/-! Publications in normal form: the other members are in canonical form and apart from the known
ones, and so are their parts. Every publication that is read is in normal form, and one in normal
form is read back from its value. -/
namespace Bindery

open Json (Members Value)

theorem membersOf_ok {what : String} {v : Value} {members : Members}
    (ok : membersOf what v = .ok members) : v = .object members := by
  cases v with
  | object given =>
    cases ok
    rfl
  | null => cases ok
  | bool b => cases ok
  | number n => cases ok
  | string s => cases ok
  | array items => cases ok

theorem membersOf_object (what : String) (members : Members) :
    membersOf what (.object members) = .ok members := rfl

theorem textOf_ok {what s : String} {v : Value} (ok : textOf what v = .ok s) : v = .string s := by
  cases v with
  | string given =>
    cases ok
    rfl
  | null => cases ok
  | bool b => cases ok
  | number n => cases ok
  | array items => cases ok
  | object members => cases ok

/-! ## Known members -/

def fieldMembers (fields : List (String × Option Value)) : Members :=
  fields.flatMap fun (name, value) => optionalMember name value

theorem sublist_names_fieldMembers (fields : List (String × Option Value)) :
    ((fieldMembers fields).map Prod.fst).Sublist (fields.map Prod.fst) := by
  induction fields with
  | nil => exact List.Sublist.refl _
  | cons first rest ih =>
    obtain ⟨name, value⟩ := first
    cases value with
    | none => exact ih.cons name
    | some v => exact ih.cons_cons name

theorem names_fieldMembers {fields : List (String × Option Value)} {name : String}
    (listed : name ∈ (fieldMembers fields).map Prod.fst) : name ∈ fields.map Prod.fst :=
  (sublist_names_fieldMembers fields).subset listed

theorem known_of_filter {name : String} {members : Members} {value : Option Value}
    (kept : members.filter (·.1 = name) = optionalMember name value) :
    known name members = .ok value := by
  unfold known
  rw [kept]
  cases value with
  | none => rfl
  | some v => rfl

theorem filter_of_not_mem {name : String} {members : Members}
    (absent : name ∉ members.map Prod.fst) : members.filter (·.1 = name) = [] := by
  refine List.filter_eq_nil_iff.mpr fun member listed same => absent ?_
  exact List.mem_map.mpr ⟨member, listed, of_decide_eq_true same⟩

theorem filter_optionalMember (name : String) (value : Option Value) :
    (optionalMember name value).filter (·.1 = name) = optionalMember name value := by
  cases value with
  | none => rfl
  | some v => exact List.filter_eq_self.mpr (by simp [optionalMember])

theorem known_field {fields : List (String × Option Value)} {extra : Members} {name : String}
    {value : Option Value} (distinct : (fields.map Prod.fst).Nodup)
    (apart : name ∉ extra.map Prod.fst) (listed : (name, value) ∈ fields) :
    known name (fieldMembers fields ++ extra) = .ok value := by
  have field : (fieldMembers fields).filter (·.1 = name) = optionalMember name value := by
    induction fields with
    | nil => cases listed
    | cons first rest ih =>
      obtain ⟨n, v⟩ := first
      obtain ⟨alone, distinct⟩ := List.nodup_cons.mp distinct
      change (optionalMember n v ++ fieldMembers rest).filter _ = _
      rw [List.filter_append]
      rcases List.mem_cons.mp listed with same | later
      · cases same
        rw [filter_optionalMember, filter_of_not_mem fun there => alone (names_fieldMembers there),
          List.append_nil]
      · have other : name ∉ (optionalMember n v).map Prod.fst := by
          intro here
          have same : name = n := by
            cases v with
            | none => cases here
            | some v => exact List.mem_singleton.mp here
          have there : name ∈ rest.map Prod.fst := List.mem_map_of_mem later
          exact alone (same ▸ there)
        rw [filter_of_not_mem other, List.nil_append, ih distinct later]
  refine known_of_filter ?_
  rw [List.filter_append, field, filter_of_not_mem apart, List.append_nil]

theorem mem_of_known {name : String} {members : Members} {v : Value}
    (seen : known name members = .ok (some v)) : (name, v) ∈ members := by
  unfold known at seen
  split at seen
  · cases seen
  · rename_i n w one
    have listed : (n, w) ∈ members.filter (·.1 = name) := one ▸ List.mem_singleton_self _
    obtain ⟨member, same⟩ := List.mem_filter.mp listed
    cases seen
    exact of_decide_eq_true same ▸ member
  · cases seen

theorem eq_of_known {name : String} {members : Members} {v : Value} {found : Option Value}
    (listed : (name, v) ∈ members) (seen : known name members = .ok found) : found = some v := by
  have kept : (name, v) ∈ members.filter (·.1 = name) :=
    List.mem_filter.mpr ⟨listed, decide_eq_true rfl⟩
  unfold known at seen
  split at seen
  · rename_i none
    rw [none] at kept
    cases kept
  · rename_i n w one
    rw [one] at kept
    cases List.mem_singleton.mp kept
    cases seen
    rfl
  · cases seen

theorem mem_of_knownOption {name : String} {members : Members} {v : Value}
    (seen : knownOption name members = .ok (some v)) : (name, v) ∈ members ∧ v ≠ .null := by
  obtain ⟨found, known, rest⟩ := ok_of_bind seen
  split at rest
  · cases rest
  · rename_i found other
    cases rest
    exact ⟨mem_of_known known, fun null => other (congrArg some null)⟩

theorem knownOption_of_known {name : String} {members : Members} {value : Option Value}
    (seen : known name members = .ok value) (given : value ≠ some .null) :
    knownOption name members = .ok value := by
  unfold knownOption
  rw [bind_of_eq_ok seen]
  split
  · exact absurd rfl given
  · rfl

theorem requiredText_ok {name s : String} {members : Members}
    (read : requiredText name members = .ok s) : known name members = .ok (some (.string s)) := by
  obtain ⟨found, seen, text⟩ := ok_of_bind read
  split at text
  · rename_i v
    rw [seen, textOf_ok text]
  · cases text

theorem requiredText_of_known {name s : String} {members : Members}
    (seen : known name members = .ok (some (.string s))) : requiredText name members = .ok s := by
  unfold requiredText
  rw [bind_of_eq_ok seen]
  rfl

/-! ## Other members -/

structure IsRest (names : List String) (members : Members) : Prop where
  sorted : Members.Sorted members
  canonical : Members.AreCanonical members
  apart : ∀ name ∈ names, name ∉ members.map Prod.fst

theorem isRest_nil (names : List String) : IsRest names [] where
  sorted := List.Pairwise.nil
  canonical := trivial
  apart := fun _ _ => List.not_mem_nil

theorem mem_of_mem_others {names : List String} {members : Members} {member : String × Value}
    (listed : member ∈ others names members) :
    ∃ v, (member.1, v) ∈ members ∧ member.1 ∉ names ∧ member.2 = v.canonical := by
  have kept := Members.mem_of_mem_sort listed
  obtain ⟨v, filtered, same⟩ := Json.mem_canonicalMembers kept
  obtain ⟨here, other⟩ := List.mem_filter.mp filtered
  exact ⟨v, here, by simpa using other, same⟩

theorem isRest_others (names : List String) (members : Members) :
    IsRest names (others names members) where
  sorted := Members.sorted_sort _
  canonical := (Members.areCanonical_iff _).mpr fun member listed => by
    obtain ⟨v, _, _, same⟩ := mem_of_mem_others listed
    exact same ▸ Json.isCanonical_canonical v
  apart := fun name known listed => by
    obtain ⟨member, there, rfl⟩ := List.mem_map.mp listed
    obtain ⟨_, _, other, _⟩ := mem_of_mem_others there
    exact other known

structure HasFields (names : List String) (members : Members)
    (fields : List (String × Option Value)) (extra : Members) : Prop where
  form : members = fieldMembers fields ++ extra
  named : fields.map Prod.fst = names
  distinct : names.Nodup
  rest : IsRest names extra

namespace HasFields

variable {names : List String} {members extra : Members}
  {fields : List (String × Option Value)} {name : String}

theorem known (has : HasFields names members fields extra) {value : Option Value}
    (listed : (name, value) ∈ fields) : known name members = .ok value := by
  obtain ⟨rfl, rfl, distinct, rest⟩ := has
  exact known_field distinct (rest.apart name (List.mem_map_of_mem listed)) listed

theorem text (has : HasFields names members fields extra) {s : String}
    (listed : (name, some (.string s)) ∈ fields) : requiredText name members = .ok s :=
  requiredText_of_known (has.known listed)

theorem option (has : HasFields names members fields extra) {value : Option Value}
    (listed : (name, value) ∈ fields) (given : value ≠ some .null) :
    knownOption name members = .ok value :=
  knownOption_of_known (has.known listed) given

theorem others (has : HasFields names members fields extra) : others names members = extra := by
  obtain ⟨rfl, rfl, _, rest⟩ := has
  let isOther (member : String × Value) : Bool := !(fields.map Prod.fst).contains member.1
  have known : (fieldMembers fields).filter isOther = [] := by
    refine List.filter_eq_nil_iff.mpr fun member listed => ?_
    have named := names_fieldMembers (List.mem_map_of_mem listed)
    simpa [isOther] using named
  have unknown : extra.filter isOther = extra := by
    refine List.filter_eq_self.mpr fun member listed => ?_
    have apart := fun named => rest.apart member.1 named (List.mem_map_of_mem listed)
    simpa [isOther] using apart
  change Members.sort (Json.canonicalMembers ((fieldMembers fields ++ extra).filter isOther)) =
    extra
  rw [List.filter_append, known, unknown, List.nil_append,
    Json.canonicalMembers_of_areCanonical _ rest.canonical, Members.sort_of_sorted rest.sorted]

end HasFields

theorem IsRest.reread {names : List String} {members again : Members} (rest : IsRest names members)
    (read : Json.rereadMembers? members = some again) : IsRest names again := by
  have same := Json.names_rereadMembers? read
  refine ⟨?_, Json.areCanonicalMembers_reread members again read rest.canonical, ?_⟩
  · unfold Members.Sorted
    rw [same]
    exact rest.sorted
  · rw [same]
    exact rest.apart

/-! ## Normal form -/

def Protection.Normal (p : Protection) : Prop := IsRest ["scheme", "profile", "algorithm"] p.extra

structure Properties.Normal (p : Properties) : Prop where
  protection : ∀ protection ∈ p.protection, protection.Normal
  rest : IsRest ["encrypted"] p.extra

structure Link.Normal (link : Link) : Prop where
  properties : ∀ p ∈ link.properties, p.Normal
  rest : IsRest ["href", "type", "properties"] link.extra

def Title.Normal : Title → Prop
  | .plain _ => True
  | .localized texts => Members.Sorted texts

structure Metadata.Normal (m : Metadata) : Prop where
  title : ∀ title ∈ m.title, title.Normal
  rest : IsRest ["title"] m.extra

structure Publication.Normal (p : Publication) : Prop where
  context : ∀ v ∈ p.context, v.IsCanonical ∧ v ≠ .null
  metadata : p.metadata.Normal
  readingOrder : ∀ link ∈ p.readingOrder, link.Normal
  resources : ∀ link ∈ p.resources, link.Normal
  rest : IsRest ["@context", "metadata", "readingOrder", "resources"] p.extra

/-! ## What is in normal form is read back -/

theorem mapM_some_of_ok {α β : Type} {read : β → Result α} {v : β} {a : α} (ok : read v = .ok a) :
    (some v).mapM read = .ok (some a) := by
  change (do return some (← read v)) = _
  rw [bind_of_eq_ok ok]
  rfl

theorem mapM_of_forall_ok {α β : Type} {read : β → Result α} {write : α → β} {as : List α}
    (back : ∀ a ∈ as, read (write a) = .ok a) : (as.map write).mapM read = .ok as := by
  induction as with
  | nil => rfl
  | cons a as ih =>
    obtain ⟨here, others⟩ := List.forall_mem_cons.mp back
    rw [List.map_cons, List.mapM_cons, bind_of_eq_ok here, bind_of_eq_ok (ih others)]
    rfl

theorem Protection.hasFields {p : Protection} (normal : p.Normal) :
    ∃ members, p.toValue = .object members ∧
      HasFields ["scheme", "profile", "algorithm"] members [("scheme", some (.string p.scheme)),
        ("profile", some (.string p.profile)), ("algorithm", some (.string p.algorithm))] p.extra :=
  ⟨_, rfl, rfl, rfl, by decide, normal⟩

theorem Protection.ofValue_toValue {p : Protection} (normal : p.Normal) :
    ofValue p.toValue = .ok p := by
  obtain ⟨members, form, has⟩ := hasFields normal
  have scheme : requiredText "scheme" members = .ok p.scheme := has.text (by simp)
  have profile : requiredText "profile" members = .ok p.profile := has.text (by simp)
  have algorithm : requiredText "algorithm" members = .ok p.algorithm := has.text (by simp)
  rw [form]
  unfold ofValue
  rw [bind_of_eq_ok (membersOf_object _ _), bind_of_eq_ok scheme, bind_of_eq_ok profile,
    bind_of_eq_ok algorithm, has.others]

theorem mapM_map_of_ok {α : Type} {read : Value → Result α} {write : α → Value} {made : Option α}
    (back : ∀ a ∈ made, read (write a) = .ok a) : (made.map write).mapM read = .ok made := by
  cases made with
  | none => rfl
  | some a => exact mapM_some_of_ok (back a rfl)

theorem Protection.toValue_ne_null (p : Protection) : p.toValue ≠ .null := nofun

theorem Properties.hasFields {p : Properties} (normal : p.Normal) :
    ∃ members, p.toValue = .object members ∧
      HasFields ["encrypted"] members
        [("encrypted", p.protection.map Protection.toValue)] p.extra := by
  refine ⟨_, rfl, ?_, rfl, by decide, normal.rest⟩
  simp [fieldMembers]

theorem map_toValue_ne_null {α : Type} {write : α → Value} (objects : ∀ a, write a ≠ .null)
    (made : Option α) : made.map write ≠ some .null := by
  cases made with
  | none => exact nofun
  | some a => exact fun null => objects a (Option.some.inj null)

theorem Properties.ofValue_toValue {p : Properties} (normal : p.Normal) :
    ofValue p.toValue = .ok p := by
  obtain ⟨members, form, has⟩ := hasFields normal
  have protection : knownOption "encrypted" members = .ok (p.protection.map Protection.toValue) :=
    has.option (by simp) (map_toValue_ne_null Protection.toValue_ne_null _)
  have made := mapM_map_of_ok fun q given => Protection.ofValue_toValue (normal.protection q given)
  rw [form]
  unfold ofValue
  rw [bind_of_eq_ok (membersOf_object _ _), bind_of_eq_ok protection, bind_of_eq_ok made,
    has.others]

theorem Properties.toValue_ne_null (p : Properties) : p.toValue ≠ .null := nofun

theorem Link.hasFields {link : Link} (normal : link.Normal) :
    ∃ members, link.toValue = .object members ∧
      HasFields ["href", "type", "properties"] members [("href", some (.string link.href)),
        ("type", if link.type = "" then none else some (.string link.type)),
        ("properties", link.properties.map Properties.toValue)] link.extra := by
  refine ⟨_, rfl, ?_, rfl, by decide, normal.rest⟩
  simp [fieldMembers, optionalMember]

theorem Link.ofValue_toValue {link : Link} (normal : link.Normal) :
    ofValue link.toValue = .ok link := by
  obtain ⟨members, form, has⟩ := hasFields normal
  have href : requiredText "href" members = .ok link.href := has.text (by simp)
  have type : known "type" members =
      .ok (if link.type = "" then none else some (.string link.type)) := has.known (by simp)
  have typed : (if link.type = "" then none else some (Value.string link.type)).mapM
      (textOf "type") = .ok (if link.type = "" then none else some link.type) := by
    split
    · rfl
    · rfl
  have properties : knownOption "properties" members =
      .ok (link.properties.map Properties.toValue) :=
    has.option (by simp) (map_toValue_ne_null Properties.toValue_ne_null _)
  have made := mapM_map_of_ok fun p given =>
    Properties.ofValue_toValue (normal.properties p given)
  have same : (if link.type = "" then none else some link.type).getD "" = link.type := by
    split
    · rename_i empty
      exact empty.symm
    · rfl
  rw [form]
  unfold ofValue
  rw [bind_of_eq_ok (membersOf_object _ _), bind_of_eq_ok href, bind_of_eq_ok type,
    bind_of_eq_ok typed, bind_of_eq_ok properties, bind_of_eq_ok made, has.others, same]

theorem Title.toValue_ne_null (title : Title) : title.toValue ≠ .null := by
  cases title with
  | plain text => exact nofun
  | localized texts => exact nofun

theorem Title.ofValue_toValue {title : Title} (normal : title.Normal) :
    ofValue title.toValue = .ok title := by
  cases title with
  | plain text => rfl
  | localized texts =>
    let read (member : String × Value) : Result (String × String) := do
      .ok (member.1, ← textOf "a title" member.2)
    let write (text : String × String) : String × Value := (text.1, .string text.2)
    have back : (texts.map write).mapM read = .ok texts := mapM_of_forall_ok fun _ _ => rfl
    have sorted : Members.sort texts = texts := Members.sort_of_sorted normal
    change ((texts.map write).mapM read >>= fun texts =>
      (.ok (.localized (Members.sort texts)) : Result Title)) = _
    rw [bind_of_eq_ok back, sorted]

theorem Metadata.hasFields {m : Metadata} (normal : m.Normal) :
    ∃ members, m.toValue = .object members ∧
      HasFields ["title"] members [("title", m.title.map Title.toValue)] m.extra := by
  refine ⟨_, rfl, ?_, rfl, by decide, normal.rest⟩
  simp [fieldMembers]

theorem Metadata.ofValue_toValue {m : Metadata} (normal : m.Normal) :
    ofValue m.toValue = .ok m := by
  obtain ⟨members, form, has⟩ := hasFields normal
  have title : knownOption "title" members = .ok (m.title.map Title.toValue) :=
    has.option (by simp) (map_toValue_ne_null Title.toValue_ne_null _)
  have made := mapM_map_of_ok fun title given => Title.ofValue_toValue (normal.title title given)
  rw [form]
  unfold ofValue
  rw [bind_of_eq_ok (membersOf_object _ _), bind_of_eq_ok title, bind_of_eq_ok made, has.others]

theorem Publication.hasFields {p : Publication} (normal : p.Normal) :
    ∃ members, p.toValue = .object members ∧
      HasFields ["@context", "metadata", "readingOrder", "resources"] members
        [("@context", p.context), ("metadata", some p.metadata.toValue),
          ("readingOrder", some (.array (p.readingOrder.map Link.toValue))),
          ("resources", if p.resources = [] then none
            else some (.array (p.resources.map Link.toValue)))] p.extra := by
  refine ⟨_, rfl, ?_, rfl, by decide, normal.rest⟩
  simp [fieldMembers, optionalMember]

theorem linksOf_toValue {name : String} {members : Members} {links : List Link}
    (normal : ∀ link ∈ links, link.Normal)
    (seen : known name members = .ok (some (.array (links.map Link.toValue)))) :
    linksOf name members = .ok links := by
  unfold linksOf
  rw [bind_of_eq_ok seen]
  exact mapM_of_forall_ok fun link listed => Link.ofValue_toValue (normal link listed)

theorem Publication.ofValue_toValue {p : Publication} (normal : p.Normal) :
    ofValue p.toValue = .ok p := by
  obtain ⟨members, form, has⟩ := hasFields normal
  have context : knownOption "@context" members = .ok p.context :=
    has.option (by simp) fun null => (normal.context _ null).2 rfl
  have kept : p.context.map Value.canonical = p.context := by
    cases given : p.context with
    | none => rfl
    | some v => exact congrArg some (Json.canonical_of_isCanonical v (normal.context v given).1)
  have metadata : known "metadata" members = .ok (some p.metadata.toValue) := has.known (by simp)
  have described := mapM_some_of_ok (Metadata.ofValue_toValue normal.metadata)
  have readingOrder : linksOf "readingOrder" members = .ok p.readingOrder :=
    linksOf_toValue normal.readingOrder (has.known (by simp))
  have seen : known "resources" members = .ok (if p.resources = [] then none
      else some (.array (p.resources.map Link.toValue))) := has.known (by simp)
  have ancillary : linksOf "resources" members = .ok p.resources := by
    by_cases none : p.resources = []
    · rw [if_pos none] at seen
      unfold linksOf
      rw [bind_of_eq_ok seen, none]
    · rw [if_neg none] at seen
      exact linksOf_toValue normal.resources seen
  rw [form]
  unfold ofValue
  rw [bind_of_eq_ok (membersOf_object _ _), bind_of_eq_ok context, bind_of_eq_ok metadata,
    bind_of_eq_ok described, bind_of_eq_ok readingOrder, bind_of_eq_ok ancillary, has.others, kept]
  rfl

/-! ## What is read is in normal form -/

theorem mapM_none_ok {α : Type} {read : Value → Result α} {made : Option α}
    (mapped : (none : Option Value).mapM read = .ok made) : made = none := by
  cases mapped
  rfl

theorem mapM_some_ok {α : Type} {read : Value → Result α} {v : Value} {made : Option α}
    (mapped : (some v).mapM read = .ok made) : ∃ a, read v = .ok a ∧ made = some a := by
  obtain ⟨a, ran, rest⟩ := ok_of_bind mapped
  cases rest
  exact ⟨a, ran, rfl⟩

theorem of_mem_mapM {α : Type} {read : Value → Result α} {found : Option Value} {made : Option α}
    (mapped : found.mapM read = .ok made) {a : α} (given : a ∈ made) :
    ∃ v, found = some v ∧ read v = .ok a := by
  cases found with
  | none =>
    rw [mapM_none_ok mapped] at given
    cases given
  | some v =>
    obtain ⟨b, ran, rfl⟩ := mapM_some_ok mapped
    cases given
    exact ⟨v, rfl, ran⟩

theorem Protection.ofValue_ok {v : Value} {p : Protection} (read : ofValue v = .ok p) :
    ∃ members, v = .object members ∧
      (requiredText "scheme" members = .ok p.scheme ∧
        requiredText "profile" members = .ok p.profile ∧
        requiredText "algorithm" members = .ok p.algorithm) ∧
      p.extra = others ["scheme", "profile", "algorithm"] members := by
  obtain ⟨members, object, rest⟩ := ok_of_bind read
  obtain ⟨_, scheme, rest⟩ := ok_of_bind rest
  obtain ⟨_, profile, rest⟩ := ok_of_bind rest
  obtain ⟨_, algorithm, rest⟩ := ok_of_bind rest
  cases rest
  exact ⟨members, membersOf_ok object, ⟨scheme, profile, algorithm⟩, rfl⟩

theorem Properties.ofValue_ok {v : Value} {p : Properties} (read : ofValue v = .ok p) :
    ∃ members, v = .object members ∧
      (∃ found, knownOption "encrypted" members = .ok found ∧
        found.mapM Protection.ofValue = .ok p.protection) ∧
      p.extra = others ["encrypted"] members := by
  obtain ⟨members, object, rest⟩ := ok_of_bind read
  obtain ⟨found, known, rest⟩ := ok_of_bind rest
  obtain ⟨_, mapped, rest⟩ := ok_of_bind rest
  cases rest
  exact ⟨members, membersOf_ok object, ⟨found, known, mapped⟩, rfl⟩

theorem Link.ofValue_ok {v : Value} {link : Link} (read : ofValue v = .ok link) :
    ∃ members, v = .object members ∧
      requiredText "href" members = .ok link.href ∧
      (∃ found made, known "type" members = .ok found ∧
        found.mapM (textOf "type") = .ok made ∧ link.type = made.getD "") ∧
      (∃ found, knownOption "properties" members = .ok found ∧
        found.mapM Properties.ofValue = .ok link.properties) ∧
      link.extra = others ["href", "type", "properties"] members := by
  obtain ⟨members, object, rest⟩ := ok_of_bind read
  obtain ⟨_, href, rest⟩ := ok_of_bind rest
  obtain ⟨type, typed, rest⟩ := ok_of_bind rest
  obtain ⟨made, text, rest⟩ := ok_of_bind rest
  obtain ⟨found, known, rest⟩ := ok_of_bind rest
  obtain ⟨_, mapped, rest⟩ := ok_of_bind rest
  cases rest
  exact ⟨members, membersOf_ok object, href, ⟨type, made, typed, text, rfl⟩,
    ⟨found, known, mapped⟩, rfl⟩

theorem linksOf_ok {name : String} {members : Members} {links : List Link}
    (read : linksOf name members = .ok links) : links = [] ∨
      ∃ items, (name, .array items) ∈ members ∧ items.mapM Link.ofValue = .ok links := by
  obtain ⟨found, seen, rest⟩ := ok_of_bind read
  split at rest
  · cases rest
    exact .inl rfl
  · rename_i items
    exact .inr ⟨items, mem_of_known seen, rest⟩
  · cases rest

theorem Metadata.ofValue_ok {v : Value} {m : Metadata} (read : ofValue v = .ok m) :
    ∃ members, v = .object members ∧
      (∃ found, knownOption "title" members = .ok found ∧
        found.mapM Title.ofValue = .ok m.title) ∧
      m.extra = others ["title"] members := by
  obtain ⟨members, object, rest⟩ := ok_of_bind read
  obtain ⟨found, known, rest⟩ := ok_of_bind rest
  obtain ⟨_, mapped, rest⟩ := ok_of_bind rest
  cases rest
  exact ⟨members, membersOf_ok object, ⟨found, known, mapped⟩, rfl⟩

theorem Publication.ofValue_ok {v : Value} {p : Publication} (read : ofValue v = .ok p) :
    ∃ members, v = .object members ∧
      (∃ found, knownOption "@context" members = .ok found ∧
        p.context = found.map Value.canonical) ∧
      (∃ found made, known "metadata" members = .ok found ∧
        found.mapM Metadata.ofValue = .ok made ∧ p.metadata = made.getD {}) ∧
      linksOf "readingOrder" members = .ok p.readingOrder ∧
      linksOf "resources" members = .ok p.resources ∧
      p.extra = others ["@context", "metadata", "readingOrder", "resources"] members := by
  obtain ⟨members, object, rest⟩ := ok_of_bind read
  obtain ⟨context, first, rest⟩ := ok_of_bind rest
  obtain ⟨metadata, second, rest⟩ := ok_of_bind rest
  obtain ⟨made, mapped, rest⟩ := ok_of_bind rest
  obtain ⟨_, third, rest⟩ := ok_of_bind rest
  obtain ⟨_, fourth, rest⟩ := ok_of_bind rest
  cases rest
  exact ⟨members, membersOf_ok object, ⟨context, first, rfl⟩, ⟨metadata, made, second, mapped, rfl⟩,
    third, fourth, rfl⟩

theorem Protection.normal_of_ofValue {v : Value} {p : Protection} (read : ofValue v = .ok p) :
    p.Normal := by
  obtain ⟨members, _, _, extra⟩ := ofValue_ok read
  unfold Normal
  rw [extra]
  exact isRest_others _ members

theorem Properties.normal_of_ofValue {v : Value} {p : Properties} (read : ofValue v = .ok p) :
    p.Normal := by
  obtain ⟨members, _, ⟨found, _, mapped⟩, extra⟩ := ofValue_ok read
  refine ⟨fun protection given => ?_, extra ▸ isRest_others _ members⟩
  obtain ⟨_, _, ran⟩ := of_mem_mapM mapped given
  exact Protection.normal_of_ofValue ran

theorem Link.normal_of_ofValue {v : Value} {link : Link} (read : ofValue v = .ok link) :
    link.Normal := by
  obtain ⟨members, _, _, _, ⟨found, _, mapped⟩, extra⟩ := ofValue_ok read
  refine ⟨fun p given => ?_, extra ▸ isRest_others _ members⟩
  obtain ⟨_, _, ran⟩ := of_mem_mapM mapped given
  exact Properties.normal_of_ofValue ran

theorem normal_of_linksOf {name : String} {members : Members} {links : List Link}
    (read : linksOf name members = .ok links) : ∀ link ∈ links, link.Normal := by
  intro link listed
  rcases linksOf_ok read with rfl | ⟨items, _, mapped⟩
  · cases listed
  · obtain ⟨_, _, ran⟩ := of_mem_mapM_list mapped listed
    exact Link.normal_of_ofValue ran

theorem Title.normal_of_ofValue {v : Value} {title : Title} (read : ofValue v = .ok title) :
    title.Normal := by
  unfold ofValue at read
  split at read
  · cases read
    trivial
  · obtain ⟨texts, _, rest⟩ := ok_of_bind read
    cases rest
    exact Members.sorted_sort texts
  · cases read

theorem Metadata.normal_of_ofValue {v : Value} {m : Metadata} (read : ofValue v = .ok m) :
    m.Normal := by
  obtain ⟨members, _, ⟨found, _, mapped⟩, extra⟩ := ofValue_ok read
  refine ⟨fun title given => ?_, extra ▸ isRest_others _ members⟩
  obtain ⟨_, _, ran⟩ := of_mem_mapM mapped given
  exact Title.normal_of_ofValue ran

theorem Metadata.normal_empty : ({} : Metadata).Normal where
  title := by simp
  rest := isRest_nil _

theorem canonical_ne_null {v : Value} (given : v ≠ .null) : v.canonical ≠ .null := by
  cases v with
  | null => exact absurd rfl given
  | bool b => simp [Value.canonical]
  | number n => simp [Value.canonical]
  | string s => simp [Value.canonical]
  | array items => simp [Value.canonical]
  | object members => simp [Value.canonical]

theorem Publication.normal_of_ofValue {v : Value} {p : Publication} (read : ofValue v = .ok p) :
    p.Normal := by
  obtain ⟨members, _, ⟨context, first, given⟩, ⟨metadata, made, second, mapped, described⟩,
    third, fourth, extra⟩ := ofValue_ok read
  refine ⟨fun w held => ?_, ?_, normal_of_linksOf third, normal_of_linksOf fourth,
    extra ▸ isRest_others _ members⟩
  · rw [given] at held
    obtain ⟨u, rfl, rfl⟩ := Option.map_eq_some_iff.mp held
    exact ⟨Json.isCanonical_canonical u, canonical_ne_null (mem_of_knownOption first).2⟩
  · rw [described]
    cases made with
    | none => exact Metadata.normal_empty
    | some m =>
      obtain ⟨_, _, ran⟩ := of_mem_mapM mapped rfl
      exact Metadata.normal_of_ofValue ran

end Bindery
