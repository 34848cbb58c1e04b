import Bindery.Proofs.Publication.Whole

/-! Links that can be written and read back, and what is made of them: one that is new, one for an
entry that is written anew, and one with a protection. -/
namespace Bindery

namespace Link

def bare (href type : String) : Link := { href, type }

theorem normal_bare (href type : String) : (bare href type).Normal where
  properties := by simp [bare]
  rest := isRest_nil _

theorem depth_bare_le (href type : String) : (bare href type).toValue.depth ≤ 1 :=
  (depth_toValue_le_iff _ 0).mpr ⟨by simp [bare], Nat.le_refl 0⟩

theorem isWhole_bare (href type : String) : (bare href type).toValue.IsWhole :=
  (isWhole_toValue_iff _).mpr ⟨by simp [bare], trivial⟩

/-! ## Links that are carried over -/

/-- The properties of a carried link are those of its source without the protection. -/
theorem of_mem_carriedOver {link : Link} {type : String} {p : Properties}
    (given : p ∈ (link.carriedOver type).properties) :
    ∃ q ∈ link.properties, p = { q with protection := none } := by
  unfold carriedOver at given
  cases kept : link.properties with
  | none =>
    simp only [kept] at given
    cases given
  | some q =>
    simp only [kept] at given
    split at given
    · cases given
    · cases given
      exact ⟨q, rfl, rfl⟩

theorem status_carriedOver (link : Link) (type : String) :
    (link.carriedOver type).status = (link.href, false) := by
  have plain : (link.carriedOver type).isProtected = false := by
    unfold isProtected protection?
    cases given : (link.carriedOver type).properties with
    | none => rfl
    | some p =>
      obtain ⟨q, _, rfl⟩ := of_mem_carriedOver given
      rfl
  rw [status, plain]
  rfl

theorem normal_carriedOver {link : Link} (normal : link.Normal) (type : String) :
    (link.carriedOver type).Normal where
  properties := fun p given => by
    obtain ⟨q, kept, rfl⟩ := of_mem_carriedOver given
    exact ⟨by simp, (normal.properties q kept).rest⟩
  rest := normal.rest

theorem depth_carriedOver_le (link : Link) (type : String) :
    (link.carriedOver type).toValue.depth ≤ link.toValue.depth := by
  obtain ⟨n, whole⟩ : ∃ n, link.toValue.depth = n + 1 := ⟨_, rfl⟩
  obtain ⟨properties, extra⟩ := (link.depth_toValue_le_iff n).mp (Nat.le_of_eq whole)
  rw [whole]
  refine (depth_toValue_le_iff _ n).mpr ⟨fun p given => ?_, extra⟩
  obtain ⟨q, kept, rfl⟩ := of_mem_carriedOver given
  obtain ⟨m, inside⟩ : ∃ m, q.toValue.depth = m + 1 := ⟨_, rfl⟩
  have others := ((q.depth_toValue_le_iff m).mp (Nat.le_of_eq inside)).2
  refine Nat.le_trans ?_ (properties q kept)
  rw [inside]
  exact (Properties.depth_toValue_le_iff _ m).mpr ⟨by simp, others⟩

theorem isWhole_carriedOver {link : Link} (whole : link.toValue.IsWhole) (type : String) :
    (link.carriedOver type).toValue.IsWhole := by
  obtain ⟨properties, extra⟩ := link.isWhole_toValue_iff.mp whole
  refine (isWhole_toValue_iff _).mpr ⟨fun p given => ?_, extra⟩
  obtain ⟨q, kept, rfl⟩ := of_mem_carriedOver given
  have others := (q.isWhole_toValue_iff.mp (properties q kept)).2
  exact (Properties.isWhole_toValue_iff _).mpr ⟨by simp, others⟩

theorem reread?_carriedOver {link again : Link} (read : link.reread? = some again) (type : String) :
    (link.carriedOver type).reread? = some (again.carriedOver type) := by
  obtain ⟨properties, mapped, read⟩ := Option.bind_eq_some_iff.mp read
  obtain ⟨extra, inside, same⟩ := Option.bind_eq_some_iff.mp read
  cases same
  unfold carriedOver reread?
  cases kept : link.properties with
  | none =>
    rw [kept] at mapped
    cases mapped
    simp [inside]
  | some p =>
    rw [kept, Option.mapM_some] at mapped
    obtain ⟨q, ran, rfl⟩ := Option.map_eq_some_iff.mp mapped
    obtain ⟨protection, _, ran⟩ := Option.bind_eq_some_iff.mp ran
    obtain ⟨others, within, same⟩ := Option.bind_eq_some_iff.mp ran
    cases same
    have length : others.length = p.extra.length := by
      simpa using congrArg List.length (Json.names_rereadMembers? within)
    have empty : others.isEmpty = p.extra.isEmpty := by
      rw [Bool.eq_iff_iff, List.isEmpty_iff, List.isEmpty_iff, ← List.length_eq_zero_iff,
        ← List.length_eq_zero_iff, length]
    simp only [empty]
    split
    · simp [inside]
    · simp [inside, Properties.reread?, within]

end Link

/-! ## Links that are protected -/

theorem Properties.depth_protect_le {q : Properties} {p : Protection} {n : Nat}
    (inner : p.toValue.depth ≤ n) (outer : q.toValue.depth ≤ n + 1) :
    ({ q with protection := some p } : Properties).toValue.depth ≤ n + 1 := by
  refine (depth_toValue_le_iff _ n).mpr ⟨?_, ((q.depth_toValue_le_iff n).mp outer).2⟩
  rintro _ ⟨⟩
  exact inner

namespace Link

variable {link : Link} {p : Protection}

theorem normal_protect (normal : link.Normal) (good : p.Normal) : (link.protect p).Normal where
  properties := by
    rintro _ ⟨⟩
    constructor
    · rintro _ ⟨⟩
      exact good
    · cases given : link.properties with
      | none => exact isRest_nil _
      | some q => exact (normal.properties q given).rest
  rest := normal.rest

theorem depth_protect_le {n : Nat} (inner : p.toValue.depth ≤ n)
    (outer : link.toValue.depth ≤ n + 2) : (link.protect p).toValue.depth ≤ n + 2 := by
  obtain ⟨properties, extra⟩ := (link.depth_toValue_le_iff (n + 1)).mp outer
  refine (depth_toValue_le_iff _ (n + 1)).mpr ⟨?_, extra⟩
  rintro _ ⟨⟩
  apply Properties.depth_protect_le inner
  cases given : link.properties with
  | none => exact (Properties.depth_toValue_le_iff {} n).mpr ⟨nofun, Nat.zero_le n⟩
  | some q => exact properties q given

theorem reread?_protect {again : Link} {q : Protection} (read : link.reread? = some again)
    (within : p.reread? = some q) : (link.protect p).reread? = some (again.protect q) := by
  obtain ⟨properties, mapped, read⟩ := Option.bind_eq_some_iff.mp read
  obtain ⟨extra, inside, same⟩ := Option.bind_eq_some_iff.mp read
  cases same
  unfold protect reread?
  cases given : link.properties with
  | none =>
    rw [given] at mapped
    cases mapped
    simp [inside, within, Properties.reread?, Json.rereadMembers?]
  | some before =>
    rw [given, Option.mapM_some] at mapped
    obtain ⟨after, ran, rfl⟩ := Option.map_eq_some_iff.mp mapped
    obtain ⟨protection, _, ran⟩ := Option.bind_eq_some_iff.mp ran
    obtain ⟨others, left, same⟩ := Option.bind_eq_some_iff.mp ran
    cases same
    simp [inside, within, Properties.reread?, left]

end Link

theorem Publication.forall_mem_updateFirst {P : Link → Prop} {links : List Link}
    (holds : ∀ link ∈ links, P link) (href : String) {change : Link → Link}
    (keeps : ∀ {link : Link}, P link → P (change link)) :
    ∀ link ∈ updateFirst href change links, P link := by
  induction links with
  | nil => exact holds
  | cons link links ih =>
    obtain ⟨here, others⟩ := List.forall_mem_cons.mp holds
    unfold updateFirst
    split
    · exact List.forall_mem_cons.mpr ⟨keeps here, others⟩
    · exact List.forall_mem_cons.mpr ⟨here, ih others⟩

/-! ## What can be written and read back -/

/-- A protection that can be written in its place in a publication and read back. -/
structure Protection.Sound (p : Protection) : Prop where
  normal : p.Normal
  whole : p.toValue.IsWhole
  shallow : p.toValue.depth + 4 ≤ Json.depthLimit

structure Properties.Sound (p : Properties) : Prop where
  normal : p.Normal
  whole : p.toValue.IsWhole
  shallow : p.toValue.depth + 3 ≤ Json.depthLimit

structure Link.Sound (link : Link) : Prop where
  normal : link.Normal
  whole : link.toValue.IsWhole
  shallow : link.toValue.depth + 2 ≤ Json.depthLimit

theorem Protection.sound_texts (scheme profile algorithm : String) :
    Protection.Sound { scheme, profile, algorithm } where
  normal := isRest_nil _
  whole := (isWhole_toValue_iff _).mpr trivial
  shallow := (by decide : 1 + 4 ≤ Json.depthLimit)

theorem Properties.sound_empty : Properties.Sound {} where
  normal := ⟨by simp, isRest_nil _⟩
  whole := trivial
  shallow := (by decide : 1 + 3 ≤ Json.depthLimit)

theorem Properties.Sound.protect {q : Properties} (sound : q.Sound) {p : Protection}
    (good : p.Sound) : Properties.Sound { q with protection := some p } where
  normal := ⟨fun _ given => Option.some.inj given ▸ good.normal, sound.normal.rest⟩
  whole := (isWhole_toValue_iff _).mpr
    ⟨fun _ given => Option.some.inj given ▸ good.whole, (q.isWhole_toValue_iff.mp sound.whole).2⟩
  shallow := by
    have limit : Json.depthLimit = 123 + 1 + 3 := rfl
    have inner : p.toValue.depth ≤ 123 := Nat.le_of_add_le_add_right (limit ▸ good.shallow)
    have outer : q.toValue.depth ≤ 123 + 1 := Nat.le_of_add_le_add_right (limit ▸ sound.shallow)
    rw [limit]
    exact Nat.add_le_add_right (depth_protect_le inner outer) 3

namespace Link

theorem sound_bare (href type : String) : (bare href type).Sound where
  normal := normal_bare href type
  whole := isWhole_bare href type
  shallow := Nat.le_trans (Nat.add_le_add_right (depth_bare_le href type) 2) (by decide)

theorem Sound.inList {link : Link} (sound : link.Sound) :
    link.toValue.depth + 1 ≤ Json.depthLimit - 1 :=
  Nat.pred_le_pred sound.shallow

theorem Sound.carriedOver {link : Link} (sound : link.Sound) (type : String) :
    (link.carriedOver type).Sound where
  normal := normal_carriedOver sound.normal type
  whole := isWhole_carriedOver sound.whole type
  shallow := Nat.le_trans (Nat.add_le_add_right (depth_carriedOver_le link type) 2) sound.shallow

theorem Sound.properties {link : Link} (sound : link.Sound) :
    (link.properties.getD {}).Sound := by
  cases given : link.properties with
  | none => exact Properties.sound_empty
  | some p =>
    obtain ⟨n, depth⟩ : ∃ n, link.toValue.depth = n + 1 := ⟨_, rfl⟩
    have inside := ((link.depth_toValue_le_iff n).mp (Nat.le_of_eq depth)).1 p given
    refine ⟨sound.normal.properties p given, ?_, ?_⟩
    · exact (link.isWhole_toValue_iff.mp sound.whole).1 p given
    · have shallow := sound.shallow
      change p.toValue.depth + 3 ≤ Json.depthLimit
      omega

theorem Sound.protection {link : Link} (sound : link.Sound) {p : Protection}
    (given : link.protection? = some p) : p.Sound := by
  obtain ⟨q, held, inside⟩ := Option.bind_eq_some_iff.mp given
  have outer := sound.properties
  rw [held, Option.getD_some] at outer
  obtain ⟨n, depth⟩ : ∃ n, q.toValue.depth = n + 1 := ⟨_, rfl⟩
  have within := ((q.depth_toValue_le_iff n).mp (Nat.le_of_eq depth)).1 p inside
  refine ⟨outer.normal.protection p inside, (q.isWhole_toValue_iff.mp outer.whole).1 p inside, ?_⟩
  have shallow := outer.shallow
  omega

theorem Sound.withProperties {link : Link} (sound : link.Sound) {p : Properties} (good : p.Sound) :
    Link.Sound { link with properties := some p } where
  normal := ⟨fun _ given => Option.some.inj given ▸ good.normal, sound.normal.rest⟩
  whole := (isWhole_toValue_iff _).mpr
    ⟨fun _ given => Option.some.inj given ▸ good.whole, (link.isWhole_toValue_iff.mp sound.whole).2⟩
  shallow := by
    have limit : Json.depthLimit = 124 + 1 + 2 := rfl
    have inner : p.toValue.depth ≤ 124 := Nat.le_of_add_le_add_right (limit ▸ good.shallow)
    have outer : link.toValue.depth ≤ 124 + 1 := Nat.le_of_add_le_add_right (limit ▸ sound.shallow)
    rw [limit]
    refine Nat.add_le_add_right ((depth_toValue_le_iff _ 124).mpr ⟨fun _ given => ?_, ?_⟩) 2
    · exact Option.some.inj given ▸ inner
    · exact ((link.depth_toValue_le_iff 124).mp outer).2

theorem Sound.protect {link : Link} (sound : link.Sound) {p : Protection} (good : p.Sound) :
    (link.protect p).Sound :=
  sound.withProperties (sound.properties.protect good)

end Link

/-- A publication that can be written and read back as it is. -/
structure Publication.Sound (p : Publication) : Prop where
  normal : p.Normal
  fits : p.Fits
  whole : p.IsWhole

namespace Publication.Sound

variable {p : Publication}

theorem readingOrder (sound : p.Sound) : ∀ link ∈ p.readingOrder, link.Sound :=
  fun link listed => ⟨sound.normal.readingOrder link listed, sound.whole.readingOrder link listed,
    Nat.add_le_add_right (sound.fits.readingOrder link listed) 1⟩

theorem resources (sound : p.Sound) : ∀ link ∈ p.resources, link.Sound :=
  fun link listed => ⟨sound.normal.resources link listed, sound.whole.resources link listed,
    Nat.add_le_add_right (sound.fits.resources link listed) 1⟩

theorem withReadingOrder (sound : p.Sound) {links : List Link}
    (each : ∀ link ∈ links, link.Sound) :
    Publication.Sound { p with readingOrder := links } where
  normal := { sound.normal with readingOrder := fun link listed => (each link listed).normal }
  fits := { sound.fits with readingOrder := fun link listed => (each link listed).inList }
  whole := { sound.whole with readingOrder := fun link listed => (each link listed).whole }

theorem withResources (sound : p.Sound) {links : List Link} (each : ∀ link ∈ links, link.Sound) :
    Publication.Sound { p with resources := links } where
  normal := { sound.normal with resources := fun link listed => (each link listed).normal }
  fits := { sound.fits with resources := fun link listed => (each link listed).inList }
  whole := { sound.whole with resources := fun link listed => (each link listed).whole }

end Publication.Sound

end Bindery
