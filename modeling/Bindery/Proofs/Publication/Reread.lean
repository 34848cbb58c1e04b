import Bindery.Proofs.Json.Depth
import Bindery.Proofs.Publication.Normal

/-! Written publications are read back, as what their numbers make of them. Of all parts only the
context and the members that are not known can hold numbers. -/
namespace Bindery

open Json (Members Value)

/-! ## Parts with their numbers written and read again -/

def Protection.reread? (p : Protection) : Option Protection := do
  some { p with extra := ← Json.rereadMembers? p.extra }

def Properties.reread? (p : Properties) : Option Properties := do
  some {
    protection := ← p.protection.mapM Protection.reread?
    extra := ← Json.rereadMembers? p.extra }

def Link.reread? (link : Link) : Option Link := do
  some { link with
    properties := ← link.properties.mapM Properties.reread?
    extra := ← Json.rereadMembers? link.extra }

def Metadata.reread? (m : Metadata) : Option Metadata := do
  some { m with extra := ← Json.rereadMembers? m.extra }

def Publication.reread? (p : Publication) : Option Publication := do
  some {
    context := ← p.context.mapM Value.reread?
    metadata := ← p.metadata.reread?
    readingOrder := ← p.readingOrder.mapM Link.reread?
    resources := ← p.resources.mapM Link.reread?
    extra := ← Json.rereadMembers? p.extra }

theorem rereadMembers?_append (before after : Members) :
    Json.rereadMembers? (before ++ after) = (Json.rereadMembers? before).bind fun first =>
      (Json.rereadMembers? after).map (first ++ ·) := by
  induction before with
  | nil => simp [Json.rereadMembers?]
  | cons member before ih =>
    obtain ⟨name, v⟩ := member
    simp only [List.cons_append, Json.rereadMembers?, ih]
    cases v.reread? with
    | none => rfl
    | some w =>
      cases Json.rereadMembers? before with
      | none => rfl
      | some first =>
        cases Json.rereadMembers? after with
        | none => rfl
        | some rest => rfl

theorem rereadMembers?_optional (name : String) (value : Option Value) :
    Json.rereadMembers? (optionalMember name value) =
      (value.mapM Value.reread?).map (optionalMember name) := by
  cases value with
  | none => rfl
  | some v =>
    simp only [optionalMember, Json.rereadMembers?, Option.mapM_some]
    cases v.reread? with
    | none => rfl
    | some w => rfl

theorem mapM_map_reread {α : Type} {write : α → Value} {reread : α → Option α} (made : Option α)
    (same : ∀ a, (write a).reread? = (reread a).map write) :
    (made.map write).mapM Value.reread? = (made.mapM reread).map (Option.map write) := by
  cases made with
  | none => rfl
  | some a =>
    simp only [Option.map_some, Option.mapM_some, same]
    cases reread a with
    | none => rfl
    | some b => rfl

theorem rereadItems?_map {α : Type} {write : α → Value} {reread : α → Option α} (as : List α)
    (same : ∀ a, (write a).reread? = (reread a).map write) :
    Json.rereadItems? (as.map write) = (as.mapM reread).map (List.map write) := by
  induction as with
  | nil => rfl
  | cons a as ih =>
    simp only [List.map_cons, Json.rereadItems?, same, ih, List.mapM_cons]
    cases reread a with
    | none => rfl
    | some b =>
      cases as.mapM reread with
      | none => rfl
      | some bs => rfl

theorem Protection.reread?_toValue (p : Protection) :
    p.toValue.reread? = p.reread?.map toValue := by
  simp only [toValue, Value.reread?, reread?, rereadMembers?_append, Json.rereadMembers?]
  cases Json.rereadMembers? p.extra with
  | none => rfl
  | some extra => rfl

theorem Properties.reread?_toValue (p : Properties) :
    p.toValue.reread? = p.reread?.map toValue := by
  have protection := mapM_map_reread p.protection Protection.reread?_toValue
  simp only [toValue, Value.reread?, reread?, rereadMembers?_append, rereadMembers?_optional,
    protection]
  cases p.protection.mapM Protection.reread? with
  | none => rfl
  | some made =>
    cases Json.rereadMembers? p.extra with
    | none => rfl
    | some extra => rfl

theorem Link.reread?_toValue (link : Link) : link.toValue.reread? = link.reread?.map toValue := by
  have properties := mapM_map_reread link.properties Properties.reread?_toValue
  have type : (if link.type = "" then none else some (Value.string link.type)).mapM Value.reread? =
      some (if link.type = "" then none else some (Value.string link.type)) := by
    split
    · rfl
    · rfl
  simp only [toValue, Value.reread?, reread?, rereadMembers?_append, rereadMembers?_optional,
    properties, type, Json.rereadMembers?, List.cons_append]
  cases link.properties.mapM Properties.reread? with
  | none => rfl
  | some made =>
    cases Json.rereadMembers? link.extra with
    | none => rfl
    | some extra => rfl

theorem Title.reread?_toValue (title : Title) : title.toValue.reread? = some title.toValue := by
  cases title with
  | plain text => rfl
  | localized texts =>
    let write (text : String × String) : String × Value := (text.1, .string text.2)
    have all : Json.rereadMembers? (texts.map write) = some (texts.map write) := by
      induction texts with
      | nil => rfl
      | cons first rest ih =>
        simp only [List.map_cons, Json.rereadMembers?, ih, write]
        rfl
    change (Json.rereadMembers? (texts.map write)).map Value.object = _
    rw [all]
    rfl

theorem Metadata.reread?_toValue (m : Metadata) : m.toValue.reread? = m.reread?.map toValue := by
  have title : (m.title.map Title.toValue).mapM Value.reread? =
      some (m.title.map Title.toValue) := by
    cases m.title with
    | none => rfl
    | some title =>
      simp only [Option.map_some, Option.mapM_some, Title.reread?_toValue]
      rfl
  simp only [toValue, Value.reread?, reread?, rereadMembers?_append, rereadMembers?_optional,
    title]
  cases Json.rereadMembers? m.extra with
  | none => rfl
  | some extra => rfl

theorem length_of_mapM {α : Type} {reread : α → Option α} {as bs : List α}
    (read : as.mapM reread = some bs) : bs.length = as.length := by
  induction as generalizing bs with
  | nil =>
    cases read
    rfl
  | cons a as ih =>
    rw [List.mapM_cons] at read
    obtain ⟨b, _, read⟩ := Option.bind_eq_some_iff.mp read
    obtain ⟨rest, behind, read⟩ := Option.bind_eq_some_iff.mp read
    cases read
    exact congrArg (· + 1) (ih behind)

theorem mapM_links (links : List Link) :
    (if (links.map Link.toValue).isEmpty then none
        else some (Value.array (links.map Link.toValue))).mapM Value.reread? =
      (links.mapM Link.reread?).map fun again =>
        if (again.map Link.toValue).isEmpty then none
        else some (Value.array (again.map Link.toValue)) := by
  cases links with
  | nil => rfl
  | cons link rest =>
    have items := rereadItems?_map (link :: rest) Link.reread?_toValue
    change (some (Value.array ((link :: rest).map Link.toValue))).mapM Value.reread? = _
    simp only [Option.mapM_some, Value.reread?, items]
    cases read : (link :: rest).mapM Link.reread? with
    | none => rfl
    | some again =>
      have some : again ≠ [] := by
        rintro rfl
        exact absurd (length_of_mapM read) (by simp)
      simp [some]

theorem Publication.reread?_toValue (p : Publication) :
    p.toValue.reread? = p.reread?.map toValue := by
  have readingOrder := rereadItems?_map p.readingOrder Link.reread?_toValue
  simp only [toValue, Value.reread?, reread?, rereadMembers?_append, rereadMembers?_optional,
    Json.rereadMembers?, Metadata.reread?_toValue, readingOrder, mapM_links]
  cases p.context.mapM Value.reread? with
  | none => rfl
  | some context =>
    cases p.metadata.reread? with
    | none => rfl
    | some metadata =>
      cases p.readingOrder.mapM Link.reread? with
      | none => rfl
      | some links =>
        cases p.resources.mapM Link.reread? with
        | none => rfl
        | some ancillary =>
          cases Json.rereadMembers? p.extra with
          | none => rfl
          | some extra => simp [Publication.toValue]

/-! ## Normal form -/

theorem of_mem_option_mapM {α β : Type} {read : α → Option β} {found : Option α} {made : Option β}
    (mapped : found.mapM read = some made) {b : β} (given : b ∈ made) :
    ∃ a ∈ found, read a = some b := by
  cases found with
  | none =>
    cases mapped
    cases given
  | some a =>
    rw [Option.mapM_some] at mapped
    obtain ⟨c, ran, rfl⟩ := Option.map_eq_some_iff.mp mapped
    cases given
    exact ⟨a, rfl, ran⟩

theorem isSome_of_option_mapM {α β : Type} {read : α → Option β} {found : Option α}
    {made : Option β} (mapped : found.mapM read = some made) : made.isSome = found.isSome := by
  cases found with
  | none =>
    cases mapped
    rfl
  | some a =>
    rw [Option.mapM_some] at mapped
    obtain ⟨b, _, rfl⟩ := Option.map_eq_some_iff.mp mapped
    rfl

theorem of_mem_list_mapM {α β : Type} {read : α → Option β} {as : List α} {bs : List β}
    (mapped : as.mapM read = some bs) {b : β} (listed : b ∈ bs) : ∃ a ∈ as, read a = some b := by
  induction as generalizing bs with
  | nil =>
    cases mapped
    cases listed
  | cons a as ih =>
    rw [List.mapM_cons] at mapped
    obtain ⟨first, here, mapped⟩ := Option.bind_eq_some_iff.mp mapped
    obtain ⟨others, there, mapped⟩ := Option.bind_eq_some_iff.mp mapped
    cases mapped
    rcases List.mem_cons.mp listed with rfl | later
    · exact ⟨a, List.mem_cons_self, here⟩
    · obtain ⟨c, member, ran⟩ := ih there later
      exact ⟨c, List.mem_cons_of_mem _ member, ran⟩

theorem Protection.Normal.reread {p q : Protection} (normal : p.Normal)
    (read : p.reread? = some q) : q.Normal := by
  obtain ⟨extra, inside, same⟩ := Option.bind_eq_some_iff.mp read
  cases same
  exact IsRest.reread normal inside

theorem Properties.Normal.reread {p q : Properties} (normal : p.Normal)
    (read : p.reread? = some q) : q.Normal := by
  obtain ⟨protection, mapped, read⟩ := Option.bind_eq_some_iff.mp read
  obtain ⟨extra, inside, same⟩ := Option.bind_eq_some_iff.mp read
  cases same
  refine ⟨fun made given => ?_, normal.rest.reread inside⟩
  obtain ⟨found, held, ran⟩ := of_mem_option_mapM mapped given
  exact (normal.protection found held).reread ran

theorem Link.Normal.reread {link again : Link} (normal : link.Normal)
    (read : link.reread? = some again) : again.Normal := by
  obtain ⟨properties, mapped, read⟩ := Option.bind_eq_some_iff.mp read
  obtain ⟨extra, inside, same⟩ := Option.bind_eq_some_iff.mp read
  cases same
  refine ⟨fun made given => ?_, normal.rest.reread inside⟩
  obtain ⟨found, held, ran⟩ := of_mem_option_mapM mapped given
  exact (normal.properties found held).reread ran

theorem normal_of_mapM_reread {links again : List Link} (normal : ∀ link ∈ links, link.Normal)
    (read : links.mapM Link.reread? = some again) : ∀ link ∈ again, link.Normal := by
  intro made listed
  obtain ⟨link, held, ran⟩ := of_mem_list_mapM read listed
  exact (normal link held).reread ran

theorem Publication.Normal.reread {p q : Publication} (normal : p.Normal)
    (read : p.reread? = some q) : q.Normal := by
  obtain ⟨context, first, read⟩ := Option.bind_eq_some_iff.mp read
  obtain ⟨metadata, second, read⟩ := Option.bind_eq_some_iff.mp read
  obtain ⟨readingOrder, third, read⟩ := Option.bind_eq_some_iff.mp read
  obtain ⟨resources, fourth, read⟩ := Option.bind_eq_some_iff.mp read
  obtain ⟨extra, inside, same⟩ := Option.bind_eq_some_iff.mp read
  cases same
  refine ⟨fun v given => ?_, ?_, normal_of_mapM_reread normal.readingOrder third,
    normal_of_mapM_reread normal.resources fourth, normal.rest.reread inside⟩
  · obtain ⟨w, held, ran⟩ := of_mem_option_mapM first given
    obtain ⟨canonical, some⟩ := normal.context w held
    refine ⟨Json.isCanonical_reread w v ran canonical, ?_⟩
    rintro rfl
    exact some (Json.eq_null_of_reread ran)
  · obtain ⟨others, within, same⟩ := Option.bind_eq_some_iff.mp second
    cases same
    exact ⟨normal.metadata.title, normal.metadata.rest.reread within⟩

/-! ## What is read again at all -/

theorem exists_mapM_iff {α β : Type} {read : α → Option β} (as : List α) :
    (∃ bs, as.mapM read = some bs) ↔ ∀ a ∈ as, ∃ b, read a = some b := by
  induction as with
  | nil => simp
  | cons a as ih =>
    rw [List.forall_mem_cons, ← ih, List.mapM_cons]
    constructor
    · rintro ⟨bs, mapped⟩
      obtain ⟨b, here, mapped⟩ := Option.bind_eq_some_iff.mp mapped
      obtain ⟨rest, there, _⟩ := Option.bind_eq_some_iff.mp mapped
      exact ⟨⟨b, here⟩, rest, there⟩
    · rintro ⟨⟨b, here⟩, rest, there⟩
      exact ⟨b :: rest, by simp [here, there]⟩

def Publication.Rereads (p : Publication) : Prop := ∃ q, p.reread? = some q

def Link.Rereads (link : Link) : Prop := ∃ again, link.reread? = some again

theorem Publication.rereads_with_iff (p : Publication) (readingOrder : List Link) :
    ({ p with readingOrder } : Publication).Rereads ↔
      ({ p with readingOrder := [] } : Publication).Rereads ∧
        ∀ link ∈ readingOrder, link.Rereads := by
  unfold Link.Rereads Rereads reread?
  rw [← exists_mapM_iff]
  simp only [List.mapM_nil]
  cases p.context.mapM Value.reread? with
  | none => simp
  | some context =>
    cases p.metadata.reread? with
    | none => simp
    | some metadata =>
      cases p.resources.mapM Link.reread? with
      | none => simp
      | some ancillary =>
        cases Json.rereadMembers? p.extra with
        | none => simp
        | some extra =>
          cases readingOrder.mapM Link.reread? with
          | none => simp
          | some links => simp

/-! ## Links -/

def Link.status (link : Link) : String × Bool := (link.href, link.isProtected)

theorem Link.status_reread {link again : Link} (read : link.reread? = some again) :
    again.status = link.status := by
  obtain ⟨properties, mapped, read⟩ := Option.bind_eq_some_iff.mp read
  obtain ⟨extra, _, same⟩ := Option.bind_eq_some_iff.mp read
  cases same
  have kept : (properties.bind (·.protection)).isSome =
      (link.properties.bind (·.protection)).isSome := by
    cases given : link.properties with
    | none =>
      rw [given] at mapped
      cases mapped
      rfl
    | some p =>
      rw [given, Option.mapM_some] at mapped
      obtain ⟨q, ran, rfl⟩ := Option.map_eq_some_iff.mp mapped
      obtain ⟨protection, inside, ran⟩ := Option.bind_eq_some_iff.mp ran
      obtain ⟨_, _, same⟩ := Option.bind_eq_some_iff.mp ran
      cases same
      exact isSome_of_option_mapM inside
  unfold status isProtected protection?
  rw [kept]

theorem map_status_of_reread {links again : List Link}
    (read : links.mapM Link.reread? = some again) :
    again.map Link.status = links.map Link.status := by
  induction links generalizing again with
  | nil =>
    cases read
    rfl
  | cons link links ih =>
    rw [List.mapM_cons] at read
    obtain ⟨first, here, read⟩ := Option.bind_eq_some_iff.mp read
    obtain ⟨others, there, read⟩ := Option.bind_eq_some_iff.mp read
    cases read
    rw [List.map_cons, List.map_cons, Link.status_reread here, ih there]

theorem Publication.map_status_of_reread {p q : Publication} (read : p.reread? = some q) :
    q.readingOrder.map Link.status = p.readingOrder.map Link.status := by
  obtain ⟨_, _, read⟩ := Option.bind_eq_some_iff.mp read
  obtain ⟨_, _, read⟩ := Option.bind_eq_some_iff.mp read
  obtain ⟨_, mapped, read⟩ := Option.bind_eq_some_iff.mp read
  obtain ⟨_, _, read⟩ := Option.bind_eq_some_iff.mp read
  obtain ⟨_, _, same⟩ := Option.bind_eq_some_iff.mp read
  cases same
  exact Bindery.map_status_of_reread mapped

theorem Publication.hrefs_resources_of_reread {p q : Publication} (read : p.reread? = some q) :
    q.resources.map Link.href = p.resources.map Link.href := by
  obtain ⟨_, _, read⟩ := Option.bind_eq_some_iff.mp read
  obtain ⟨_, _, read⟩ := Option.bind_eq_some_iff.mp read
  obtain ⟨_, _, read⟩ := Option.bind_eq_some_iff.mp read
  obtain ⟨_, mapped, read⟩ := Option.bind_eq_some_iff.mp read
  obtain ⟨_, _, same⟩ := Option.bind_eq_some_iff.mp read
  cases same
  have hrefs := congrArg (List.map Prod.fst) (Bindery.map_status_of_reread mapped)
  rw [List.map_map, List.map_map] at hrefs
  exact hrefs

/-! ## Depth -/

theorem depthMembers_append (before after : Members) :
    Json.depthMembers (before ++ after) =
      max (Json.depthMembers before) (Json.depthMembers after) := by
  induction before with
  | nil => exact (Nat.zero_max _).symm
  | cons member before ih =>
    rw [List.cons_append, Json.depthMembers, Json.depthMembers, ih, Nat.max_assoc]

theorem depthMembers_optional_le_iff (name : String) (value : Option Value) (n : Nat) :
    Json.depthMembers (optionalMember name value) ≤ n ↔ ∀ v ∈ value, v.depth ≤ n := by
  cases value with
  | none => simp [optionalMember, Json.depthMembers]
  | some v => simp [optionalMember, Json.depthMembers]

theorem forall_mem_map_depth {α : Type} {write : α → Value} {made : Option α} {n : Nat} :
    (∀ v ∈ made.map write, v.depth ≤ n) ↔ ∀ a ∈ made, (write a).depth ≤ n := by
  cases made with
  | none => simp
  | some a => simp

theorem depth_le_of_mem {members : Members} {name : String} {v : Value}
    (member : (name, v) ∈ members) : v.depth ≤ Json.depthMembers members :=
  (Json.depthMembers_le_iff _ _).mp (Nat.le_refl _) (name, v) member

theorem depth_others_le (names : List String) (members : Members) :
    Json.depthMembers (others names members) ≤ Json.depthMembers members := by
  refine (Json.depthMembers_le_iff _ _).mpr fun member listed => ?_
  obtain ⟨v, there, _, same⟩ := mem_of_mem_others listed
  rw [same]
  exact Nat.le_trans (Json.depth_canonical_le v) (depth_le_of_mem there)

theorem Properties.depth_toValue_le_iff (p : Properties) (n : Nat) :
    p.toValue.depth ≤ n + 1 ↔
      (∀ q ∈ p.protection, q.toValue.depth ≤ n) ∧ Json.depthMembers p.extra ≤ n := by
  rw [toValue, Value.depth, Nat.add_le_add_iff_right, depthMembers_append, Nat.max_le,
    depthMembers_optional_le_iff, forall_mem_map_depth]

theorem Link.depth_toValue_le_iff (link : Link) (n : Nat) :
    link.toValue.depth ≤ n + 1 ↔
      (∀ p ∈ link.properties, p.toValue.depth ≤ n) ∧ Json.depthMembers link.extra ≤ n := by
  have texts : Json.depthMembers (("href", Value.string link.href) :: optionalMember "type"
      (if link.type = "" then none else some (.string link.type))) ≤ n := by
    refine Nat.max_le.mpr ⟨Nat.zero_le n, (depthMembers_optional_le_iff _ _ _).mpr ?_⟩
    intro v given
    split at given
    · cases given
    · cases given
      exact Nat.zero_le n
  rw [toValue, Value.depth, Nat.add_le_add_iff_right, depthMembers_append, depthMembers_append,
    Nat.max_le, Nat.max_le, depthMembers_optional_le_iff, forall_mem_map_depth,
    and_iff_right texts]

/-- The parts of a publication are no deeper than their places in it allow. -/
structure Publication.Within (n : Nat) (p : Publication) : Prop where
  room : 1 ≤ n
  context : ∀ v ∈ p.context, v.depth ≤ n
  metadata : p.metadata.toValue.depth ≤ n
  readingOrder : ∀ link ∈ p.readingOrder, link.toValue.depth + 1 ≤ n
  resources : ∀ link ∈ p.resources, link.toValue.depth + 1 ≤ n
  extra : Json.depthMembers p.extra ≤ n

theorem depth_links_le {links : List Link} {n : Nat} (room : 1 ≤ n)
    (each : ∀ link ∈ links, link.toValue.depth + 1 ≤ n) :
    (Value.array (links.map Link.toValue)).depth ≤ n := by
  have all : Json.depthItems (links.map Link.toValue) ≤ n - 1 := by
    refine (Json.depthItems_le_iff _ _).mpr (List.forall_mem_map.mpr fun link listed => ?_)
    exact Nat.le_sub_of_add_le (each link listed)
  rw [Value.depth]
  omega

def Publication.Fits (p : Publication) : Prop := p.Within (Json.depthLimit - 1)

theorem Publication.Within.depth {n : Nat} {p : Publication} (within : p.Within n) :
    p.toValue.depth ≤ n + 1 := by
  refine Nat.add_le_add_right ?_ 1
  have resources : Json.depthMembers (optionalMember "resources"
      (if (p.resources.map Link.toValue).isEmpty then none
        else some (.array (p.resources.map Link.toValue)))) ≤ n := by
    refine (depthMembers_optional_le_iff _ _ _).mpr fun v given => ?_
    split at given
    · cases given
    · cases given
      exact depth_links_le within.room within.resources
  have middle : Json.depthMembers [("metadata", p.metadata.toValue),
      ("readingOrder", .array (p.readingOrder.map Link.toValue))] ≤ n :=
    Nat.max_le.mpr ⟨within.metadata, Nat.max_le.mpr
      ⟨depth_links_le within.room within.readingOrder, Nat.zero_le n⟩⟩
  simp only [depthMembers_append, Nat.max_le]
  exact ⟨⟨⟨(depthMembers_optional_le_iff _ _ _).mpr within.context, middle⟩, resources⟩,
    within.extra⟩

/-! ### Depth of what is read -/

theorem Protection.depth_le_of_ofValue {v : Value} {p : Protection} (read : ofValue v = .ok p) :
    p.toValue.depth ≤ v.depth := by
  obtain ⟨members, rfl, _, extra⟩ := ofValue_ok read
  refine Nat.add_le_add_right ?_ 1
  rw [depthMembers_append, extra]
  exact Nat.max_le.mpr ⟨Nat.zero_le _, depth_others_le _ members⟩

theorem Properties.depth_le_of_ofValue {v : Value} {p : Properties} (read : ofValue v = .ok p) :
    p.toValue.depth ≤ v.depth := by
  obtain ⟨members, rfl, ⟨found, seen, mapped⟩, extra⟩ := ofValue_ok read
  refine (depth_toValue_le_iff p _).mpr ⟨fun q given => ?_, extra ▸ depth_others_le _ members⟩
  obtain ⟨u, rfl, ran⟩ := of_mem_mapM mapped given
  exact Nat.le_trans (Protection.depth_le_of_ofValue ran)
    (depth_le_of_mem (mem_of_knownOption seen).1)

theorem Link.depth_le_of_ofValue {v : Value} {link : Link} (read : ofValue v = .ok link) :
    link.toValue.depth ≤ v.depth := by
  obtain ⟨members, rfl, _, _, ⟨found, seen, mapped⟩, extra⟩ := ofValue_ok read
  refine (depth_toValue_le_iff link _).mpr ⟨fun p given => ?_, extra ▸ depth_others_le _ members⟩
  obtain ⟨u, rfl, ran⟩ := of_mem_mapM mapped given
  exact Nat.le_trans (Properties.depth_le_of_ofValue ran)
    (depth_le_of_mem (mem_of_knownOption seen).1)

theorem depth_le_of_linksOf {name : String} {members : Members} {links : List Link}
    (read : linksOf name members = .ok links) :
    ∀ link ∈ links, link.toValue.depth + 1 ≤ Json.depthMembers members := by
  intro link listed
  rcases linksOf_ok read with rfl | ⟨items, member, mapped⟩
  · cases listed
  · obtain ⟨v, there, ran⟩ := of_mem_mapM_list mapped listed
    have inside := (Json.depthItems_le_iff items _).mp (Nat.le_refl _) v there
    have array : Json.depthItems items + 1 ≤ Json.depthMembers members := depth_le_of_mem member
    have made := Link.depth_le_of_ofValue ran
    omega

theorem Title.depth_le_of_ofValue {v : Value} {title : Title} (read : ofValue v = .ok title) :
    title.toValue.depth ≤ v.depth := by
  unfold ofValue at read
  split at read
  · cases read
    exact Nat.le_refl _
  · obtain ⟨texts, _, rest⟩ := ok_of_bind read
    cases rest
    refine Nat.add_le_add_right ((Json.depthMembers_le_iff _ _).mpr ?_) 1
    exact List.forall_mem_map.mpr fun _ _ => Nat.zero_le _
  · cases read

theorem Metadata.depth_le_of_ofValue {v : Value} {m : Metadata} (read : ofValue v = .ok m) :
    m.toValue.depth ≤ v.depth := by
  obtain ⟨members, rfl, ⟨found, seen, mapped⟩, extra⟩ := ofValue_ok read
  refine Nat.add_le_add_right ?_ 1
  rw [depthMembers_append, extra]
  refine Nat.max_le.mpr ⟨(depthMembers_optional_le_iff _ _ _).mpr ?_, depth_others_le _ members⟩
  refine forall_mem_map_depth.mpr fun title given => ?_
  obtain ⟨u, rfl, ran⟩ := of_mem_mapM mapped given
  exact Nat.le_trans (Title.depth_le_of_ofValue ran)
    (depth_le_of_mem (mem_of_knownOption seen).1)

theorem Publication.within_of_ofValue {v : Value} {p : Publication} (read : ofValue v = .ok p)
    {n : Nat} (room : 1 ≤ n) (shallow : v.depth ≤ n + 1) : p.Within n := by
  obtain ⟨members, rfl, ⟨context, first, given⟩, ⟨metadata, made, second, mapped, described⟩,
    third, fourth, extra⟩ := ofValue_ok read
  have inside : Json.depthMembers members ≤ n := Nat.le_of_add_le_add_right shallow
  refine ⟨room, fun w held => ?_, ?_, fun link listed => ?_, fun link listed => ?_, ?_⟩
  · rw [given] at held
    obtain ⟨u, rfl, rfl⟩ := Option.map_eq_some_iff.mp held
    exact Nat.le_trans (Json.depth_canonical_le u)
      (Nat.le_trans (depth_le_of_mem (mem_of_knownOption first).1) inside)
  · rw [described]
    cases made with
    | none => exact room
    | some m =>
      obtain ⟨u, rfl, ran⟩ := of_mem_mapM mapped rfl
      exact Nat.le_trans (Metadata.depth_le_of_ofValue ran)
        (Nat.le_trans (depth_le_of_mem (mem_of_known second)) inside)
  · exact Nat.le_trans (depth_le_of_linksOf third link listed) inside
  · exact Nat.le_trans (depth_le_of_linksOf fourth link listed) inside
  · rw [extra]
    exact Nat.le_trans (depth_others_le _ members) inside

/-! ## Written publications -/

namespace Publication

theorem readBytes_utf8Bytes (text : String) : readBytes (utf8Bytes text) = read text := by
  simp only [readBytes, utf8Text?_utf8Bytes]

theorem of_readBytes {bytes : Bytes} {p : Publication} (read : readBytes bytes = .ok p) :
    p.Normal ∧ p.Fits := by
  unfold readBytes at read
  split at read
  · unfold Publication.read at read
    split at read
    · rename_i v found
      have shallow := Json.depth_le_of_read? found
      exact ⟨normal_of_ofValue read, within_of_ofValue read (by decide) shallow⟩
    · cases read
  · cases read

theorem read_render {p : Publication} (normal : p.Normal) (fits : p.Fits) {blanks : String}
    (blank : ∀ c ∈ blanks.toList, Json.isBlank c = true) :
    read (p.render ++ blanks) =
      match p.reread? with
      | some q => .ok q
      | none => malformed "no JSON text" := by
  have found := Json.read?_render p.toValue blank
  rw [reread?_toValue, ← render, ← String.toList_append] at found
  unfold read
  rw [found]
  cases again : p.reread? with
  | none => rfl
  | some q =>
    have same : q.toValue.depth = p.toValue.depth := by
      refine Json.depth_reread p.toValue q.toValue ?_
      rw [reread?_toValue, again]
      rfl
    have shallow : q.toValue.depth ≤ Json.depthLimit := same ▸ fits.depth
    simp only [Option.map_some, Option.bind_some, if_pos shallow]
    exact ofValue_toValue (normal.reread again)

theorem href_of_ofValue_toValue {link again : Link} (read : Link.ofValue link.toValue = .ok again) :
    again.href = link.href := by
  obtain ⟨members, object, text, _⟩ := Link.ofValue_ok read
  have listed : ("href", .string link.href) ∈ members := by
    cases object
    exact List.mem_append_left _ (List.mem_append_left _ List.mem_cons_self)
  have same := eq_of_known listed (requiredText_ok text)
  exact Value.string.inj (Option.some.inj same)

/-- The links of a publication that is read from what was written lead where they led before,
whatever else the publication holds. -/
theorem hrefs_of_ofValue_toValue {p q : Publication} (read : ofValue p.toValue = .ok q) :
    q.readingOrder.map Link.href = p.readingOrder.map Link.href := by
  obtain ⟨members, object, _, _, links, _⟩ := ofValue_ok read
  have listed : ("readingOrder", .array (p.readingOrder.map Link.toValue)) ∈ members := by
    cases object
    refine List.mem_append_left _ (List.mem_append_left _ (List.mem_append_right _ ?_))
    exact List.mem_cons_of_mem _ List.mem_cons_self
  obtain ⟨found, seen, mapped⟩ := ok_of_bind links
  rw [eq_of_known listed seen] at mapped
  have mapped : (p.readingOrder.map Link.toValue).mapM Link.ofValue = .ok q.readingOrder := mapped
  rw [List.mapM_map] at mapped
  exact map_of_mapM_tells mapped fun _ _ => href_of_ofValue_toValue

theorem hrefs_of_read_render {p q : Publication} {blanks : String}
    (blank : ∀ c ∈ blanks.toList, Json.isBlank c = true)
    (read : Publication.read (p.render ++ blanks) = .ok q) :
    q.readingOrder.map Link.href = p.readingOrder.map Link.href := by
  have found := Json.read?_render p.toValue blank
  rw [reread?_toValue, ← render, ← String.toList_append] at found
  unfold Publication.read at read
  rw [found] at read
  cases again : p.reread? with
  | none =>
    rw [again] at read
    cases read
  | some p' =>
    rw [again] at read
    have links := congrArg (List.map Prod.fst) (map_status_of_reread again)
    rw [List.map_map, List.map_map] at links
    rw [Option.map_some, Option.bind_some] at read
    split at read
    · rename_i v shallow
      split at shallow
      · cases shallow
        exact (hrefs_of_ofValue_toValue read).trans links
      · cases shallow
    · cases read

end Publication

end Bindery
