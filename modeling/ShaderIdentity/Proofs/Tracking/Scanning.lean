import Mathlib.Data.List.Nodup
import ShaderIdentity.Proofs.Profile.ListingPlaces
import ShaderIdentity.Proofs.Tracking.Actions
import ShaderIdentity.Proofs.Tracking.Loading

/-! The listings of all shaders are looked at. Each has to do with its own shader only, so it does
not matter which of them is looked at first, or again. -/
namespace ShaderIdentity

namespace Listing

section
variable (files other : FileTree) (directory : String) (stage : Stage) (fingerprint : Fingerprint)

theorem isOk_text? : (text? files directory stage fingerprint).isOk =
    (text? files directory stage fingerprint).toOption.isSome := by
  generalize text? files directory stage fingerprint = read
  cases read <;> rfl

theorem extend_eq (profile : Profile) :
    extend files directory stage fingerprint profile =
      match (text? files directory stage fingerprint).toOption with
      | some text => profile.watchAlso stage (registers stage text)
      | none => profile := by
  unfold extend
  generalize text? files directory stage fingerprint = read
  cases read with
  | ok => rfl
  | error => rfl

theorem extend_of_ok {text : String} (read : text? files directory stage fingerprint = .ok text) :
    extend files directory stage fingerprint =
      fun profile => profile.watchAlso stage (registers stage text) := by
  funext profile
  rw [extend_eq, read]
  rfl

theorem extend_of_error {err : FileError}
    (failed : text? files directory stage fingerprint = .error err) :
    extend files directory stage fingerprint = id := by
  funext profile
  rw [extend_eq, failed]
  rfl

theorem extend_twice (profile : Profile) :
    extend files directory stage fingerprint (extend files directory stage fingerprint profile) =
      extend files directory stage fingerprint profile := by
  simp only [extend_eq]
  cases (text? files directory stage fingerprint).toOption with
  | none => rfl
  | some text => exact profile.watchAlso_twice stage (registers stage text)

end

end Listing

/-- The profile but for what it watches on the stage. -/
def Profile.withoutWatched (profile : Profile) (stage : Stage) : Profile :=
  { profile with watched := profile.watched.set stage ∅ }

theorem Listing.withoutWatched_extend (files : FileTree) (directory : String) (stage : Stage)
    (fingerprint : Fingerprint) (profile : Profile) :
    (extend files directory stage fingerprint profile).withoutWatched stage =
      profile.withoutWatched stage := by
  rw [extend_eq]
  cases (text? files directory stage fingerprint).toOption with
  | none => rfl
  | some text => cases stage <;> rfl

namespace Registry

variable (registry : Registry) (files other : FileTree) (directory : String)

/-! ## A scan as a whole -/

/-- The shaders that have a profile. -/
def shaders : List (Stage × Fingerprint) :=
  Stage.all.flatMap fun stage => (registry.profiles.get stage).keys.map (stage, ·)

theorem mem_shaders {stage : Stage} {fingerprint : Fingerprint} :
    (stage, fingerprint) ∈ registry.shaders ↔ (registry.profile? stage fingerprint).isSome := by
  have everyStage : stage ∈ Stage.all := by cases stage <;> decide
  rw [profile?, Std.ExtTreeMap.isSome_getElem?_iff_mem, ← Std.ExtTreeMap.mem_keys]
  simp [shaders, everyStage]

theorem nodup_shaders : registry.shaders.Nodup := by
  have once (stage : Stage) : ((registry.profiles.get stage).keys.map (stage, ·)).Nodup :=
    Std.ExtTreeMap.nodup_keys.map fun _ _ same => (Prod.mk.inj same).2
  simp only [shaders, Stage.all, List.flatMap_cons, List.flatMap_nil, List.append_nil]
  refine List.nodup_append.mpr ⟨once .vertex, once .pixel, ?_⟩
  simp only [List.mem_map]
  rintro _ ⟨_, -, rfl⟩ _ ⟨_, -, rfl⟩ same
  cases same

theorem scan_profile? (stage : Stage) (fingerprint : Fingerprint) :
    (registry.scan files directory).state.profile? stage fingerprint =
      (registry.profile? stage fingerprint).map
        (Listing.extend files directory stage fingerprint) := by
  simp only [scan, profile?, PerStage.get_ofStage, Std.ExtTreeMap.getElem?_map]

theorem scan_answer : (registry.scan files directory).answer =
    registry.shaders.countP fun shader => (Listing.text? files directory shader.1 shader.2).isOk := by
  simp only [scan, shaders, List.countP_flatMap, Function.comp_def, List.countP_map]

/-- What is reported of a listing that was looked at. -/
def unreadable? : Except FileError String → Option Event
  | .ok _ | .error .notFound => none
  | .error err => some (.listingUnreadable err)

theorem scan_events : (registry.scan files directory).events = registry.shaders.filterMap
    fun shader => unreadable? (Listing.text? files directory shader.1 shader.2) := by
  simp only [scan, shaders, List.filterMap_flatMap, List.filterMap_map]
  rfl

/-- What was looked at already adds nothing when it is looked at again. -/
theorem scan_twice :
    (registry.scan files directory).state.scan files directory = registry.scan files directory := by
  simp only [scan, PerStage.get_ofStage, Std.ExtTreeMap.keys_map, Std.ExtTreeMap.map_map,
    Listing.extend_twice]

/-! ## One profile after the other -/

/-- Looks at the listing of one shader. -/
def visit (registry : Registry) (shader : Stage × Fingerprint) : Outcome Registry Nat :=
  match Listing.text? files directory shader.1 shader.2 with
  | .ok text =>
    let found := Listing.registers shader.1 text
    ⟨1, registry.modify shader.1 shader.2 (·.watchAlso shader.1 found), []⟩
  | .error .notFound => ⟨0, registry, []⟩
  | .error err => ⟨0, registry, [.listingUnreadable err]⟩

/-- Looks at the listings in the order that is given. -/
def visitAll (registry : Registry) : List (Stage × Fingerprint) → Outcome Registry Nat
  | [] => ⟨0, registry, []⟩
  | shader :: rest =>
    let first := visit files directory registry shader
    let others := visitAll first.state rest
    ⟨first.answer + others.answer, others.state, first.events ++ others.events⟩

/-- In the order each profile comes once. -/
structure Order (registry : Registry) (order : List (Stage × Fingerprint)) : Prop where
  once : order.Nodup
  all : ∀ stage fingerprint, (stage, fingerprint) ∈ order ↔
    (registry.profile? stage fingerprint).isSome

theorem Order.perm {registry : Registry} {order : List (Stage × Fingerprint)}
    (covers : registry.Order order) : order.Perm registry.shaders := by
  refine (List.perm_ext_iff_of_nodup covers.once registry.nodup_shaders).mpr ?_
  rintro ⟨stage, fingerprint⟩
  rw [covers.all, mem_shaders]

theorem visit_profile? (shader : Stage × Fingerprint) (stage : Stage) (fingerprint : Fingerprint) :
    (registry.visit files directory shader).state.profile? stage fingerprint =
      if (stage, fingerprint) = shader then
        (registry.profile? stage fingerprint).map
          (Listing.extend files directory stage fingerprint)
      else registry.profile? stage fingerprint := by
  obtain ⟨shown, other⟩ := shader
  simp only [Prod.mk.injEq]
  unfold visit
  split
  case h_1 text read =>
    rw [profile?_modify]
    split
    · rename_i same
      obtain ⟨rfl, rfl⟩ := same
      rw [Listing.extend_of_ok _ _ _ _ read]
    · rfl
  case h_2 failed | h_3 failed =>
    split
    · rename_i same
      obtain ⟨rfl, rfl⟩ := same
      rw [Listing.extend_of_error _ _ _ _ failed, Option.map_id, id]
    · rfl

theorem visit_rest (shader : Stage × Fingerprint) :
    (registry.visit files directory shader).state.handles = registry.handles ∧
      (registry.visit files directory shader).state.bytecodeLimit = registry.bytecodeLimit := by
  unfold visit
  split <;> exact ⟨rfl, rfl⟩

theorem visitAll_rest (order : List (Stage × Fingerprint)) :
    (visitAll files directory registry order).state.handles = registry.handles ∧
      (visitAll files directory registry order).state.bytecodeLimit = registry.bytecodeLimit := by
  induction order generalizing registry with
  | nil => exact ⟨rfl, rfl⟩
  | cons shader rest ih =>
    obtain ⟨handles, limit⟩ := registry.visit_rest files directory shader
    obtain ⟨handles', limit'⟩ := ih (registry.visit files directory shader).state
    exact ⟨handles'.trans handles, limit'.trans limit⟩

theorem visitAll_profile? {order : List (Stage × Fingerprint)} (once : order.Nodup) (stage : Stage)
    (fingerprint : Fingerprint) :
    (visitAll files directory registry order).state.profile? stage fingerprint =
      if (stage, fingerprint) ∈ order then
        (registry.profile? stage fingerprint).map
          (Listing.extend files directory stage fingerprint)
      else registry.profile? stage fingerprint := by
  induction order generalizing registry with
  | nil => rfl
  | cons shader rest ih =>
    obtain ⟨absent, once⟩ := List.nodup_cons.mp once
    rw [visitAll, ih _ once, visit_profile?]
    by_cases here : (stage, fingerprint) = shader
    · rw [if_pos here, here, if_neg absent, if_pos List.mem_cons_self]
    · simp only [List.mem_cons, here, false_or, if_false]

theorem visitAll_answer (order : List (Stage × Fingerprint)) :
    (visitAll files directory registry order).answer =
      order.countP fun shader => (Listing.text? files directory shader.1 shader.2).isOk := by
  induction order generalizing registry with
  | nil => rfl
  | cons shader rest ih =>
    have first : (registry.visit files directory shader).answer =
        if (Listing.text? files directory shader.1 shader.2).isOk then 1 else 0 := by
      unfold visit
      split <;> simp [*, Except.isOk, Except.toBool]
    rw [visitAll, ih, first, List.countP_cons, Nat.add_comm]

theorem visitAll_events (order : List (Stage × Fingerprint)) :
    (visitAll files directory registry order).events = order.filterMap
      fun shader => unreadable? (Listing.text? files directory shader.1 shader.2) := by
  induction order generalizing registry with
  | nil => rfl
  | cons shader rest ih =>
    have first : (registry.visit files directory shader).events =
        (unreadable? (Listing.text? files directory shader.1 shader.2)).toList := by
      unfold visit
      split <;> simp [*, unreadable?]
    rw [visitAll, ih, first, List.filterMap_cons]
    cases unreadable? (Listing.text? files directory shader.1 shader.2) <;> rfl

theorem ext_profile? {a b : Registry}
    (profiles : ∀ stage fingerprint, a.profile? stage fingerprint = b.profile? stage fingerprint)
    (handles : a.handles = b.handles) (limit : a.bytecodeLimit = b.bytecodeLimit) : a = b := by
  have same : a.profiles = b.profiles :=
    PerStage.ext_get fun stage => Std.ExtTreeMap.ext_getElem? (profiles stage)
  cases a
  cases b
  subst same handles limit
  rfl

theorem visitAll_state {order : List (Stage × Fingerprint)} (covers : registry.Order order) :
    (visitAll files directory registry order).state = (registry.scan files directory).state := by
  obtain ⟨handles, limit⟩ := registry.visitAll_rest files directory order
  refine ext_profile? (fun stage fingerprint => ?_) handles limit
  rw [registry.visitAll_profile? files directory covers.once, scan_profile?]
  split
  · rfl
  · rename_i left
    rw [covers.all, Option.not_isSome_iff_eq_none] at left
    rw [left]
    rfl

/-! ## A change to one listing -/

/-- The registries differ in nothing but what one profile watches on its own stage. -/
structure AgreeBut (stage : Stage) (fingerprint : Fingerprint) (a b : Registry) : Prop where
  others : ∀ shader : Stage × Fingerprint, shader ≠ (stage, fingerprint) →
    a.profile? shader.1 shader.2 = b.profile? shader.1 shader.2
  own : (a.profile? stage fingerprint).map (·.withoutWatched stage) =
    (b.profile? stage fingerprint).map (·.withoutWatched stage)
  handles : a.handles = b.handles
  limit : a.bytecodeLimit = b.bytecodeLimit

theorem countP_le_of_agree {α : Type} {p q : α → Bool} {odd : α} {list : List α}
    (once : list.Nodup) (agree : ∀ a, a ≠ odd → p a = q a) :
    list.countP p ≤ list.countP q + 1 := by
  induction list with
  | nil => exact Nat.zero_le _
  | cons a rest ih =>
    obtain ⟨absent, once⟩ := List.nodup_cons.mp once
    rw [List.countP_cons, List.countP_cons]
    by_cases same : a = odd
    · have others : rest.countP p = rest.countP q := by
        refine List.countP_congr fun b mem => ?_
        rw [agree b fun again => absent (same.trans again.symm ▸ mem)]
      split <;> omega
    · rw [agree a same]
      have := ih once
      omega

variable {files other : FileTree} {directory : String} {stage : Stage} {fingerprint : Fingerprint}

theorem scan_agree
    (apart : files.ApartInFile other (Listing.path directory stage fingerprint)) :
    AgreeBut stage fingerprint (registry.scan files directory).state
      (registry.scan other directory).state := by
  refine ⟨fun shader another => ?_, ?_, rfl, rfl⟩
  · have same : Listing.extend other directory shader.1 shader.2 =
        Listing.extend files directory shader.1 shader.2 := by
      funext profile
      rw [Listing.extend_eq, Listing.extend_eq, Listing.text?_apart apart another]
    rw [scan_profile?, scan_profile?, same]
  · simp only [scan_profile?, Option.map_map, Function.comp_def, Listing.withoutWatched_extend]

theorem scan_counts
    (apart : files.ApartInFile other (Listing.path directory stage fingerprint)) :
    (registry.scan other directory).answer ≤ (registry.scan files directory).answer + 1 ∧
      (registry.scan files directory).answer ≤ (registry.scan other directory).answer + 1 := by
  have agree (shader : Stage × Fingerprint) (another : shader ≠ (stage, fingerprint)) :
      (Listing.text? other directory shader.1 shader.2).isOk =
        (Listing.text? files directory shader.1 shader.2).isOk := by
    rw [Listing.isOk_text?, Listing.isOk_text?, Listing.text?_apart apart another]
  rw [scan_answer, scan_answer]
  exact ⟨countP_le_of_agree registry.nodup_shaders agree,
    countP_le_of_agree registry.nodup_shaders fun shader another => (agree shader another).symm⟩

/-- Looking at listings a second time changes nothing, and neither does the order in which they are
looked at. A change to the file of one listing shows in what its own shader watches on its own
stage, and in whether one listing more or less was read; no two shaders share a file. -/
theorem listings_stand_alone (registry : Registry) (files : FileTree) (directory : String) :
    let scanned := registry.scan files directory
    scanned.state.scan files directory = scanned ∧
    (∀ order, registry.Order order →
      let visited := visitAll files directory registry order
      visited.state = scanned.state ∧ visited.answer = scanned.answer ∧
        visited.events.Perm scanned.events) ∧
    (∀ stage fingerprint other,
      files.ApartInFile other (Listing.path directory stage fingerprint) →
      let rescanned := registry.scan other directory
      AgreeBut stage fingerprint scanned.state rescanned.state ∧
        rescanned.answer ≤ scanned.answer + 1 ∧ scanned.answer ≤ rescanned.answer + 1) ∧
    Function.Injective fun shader : Stage × Fingerprint =>
      Listing.path directory shader.1 shader.2 := by
  intro scanned
  refine ⟨registry.scan_twice files directory, fun order covers => ?_,
    fun stage fingerprint other apart => ?_, Listing.path_injective directory⟩
  · refine ⟨registry.visitAll_state files directory covers, ?_, ?_⟩
    · rw [visitAll_answer, scan_answer]
      exact covers.perm.countP_eq _
    · rw [visitAll_events, scan_events]
      exact covers.perm.filterMap _
  · exact ⟨registry.scan_agree apart, registry.scan_counts apart⟩

/-- The vertex shader has a listing and the pixel shader of the same fingerprint has none. They are
looked at in the other order, and then the listing is removed. -/
theorem removed_listing_stands_alone :
    let above := ((FileTree.empty.put ["D"] .directory).put ["D", "Vertex"] .directory).put
      ["D", "Vertex", "asm"] .directory
    let files := above.put ["D", "Vertex", "asm", "5.asm"] (.file "gMatPower".toUTF8)
    let path := Listing.path "D/" .vertex ⟨5⟩
    let registry := ((empty 64).insert .vertex ⟨5⟩ .initial).insert .pixel ⟨5⟩ .initial
    let order : List (Stage × Fingerprint) := [(.pixel, ⟨5⟩), (.vertex, ⟨5⟩)]
    let visited := visitAll files "D/" registry order
    (registry.Order order ∧ visited.state = (registry.scan files "D/").state ∧
      visited.answer = 1) ∧
    files.ApartInFile (files.remove path) path ∧
      AgreeBut .vertex ⟨5⟩ (registry.scan files "D/").state
        (registry.scan (files.remove path) "D/").state ∧
      (registry.scan (files.remove path) "D/").answer = 0 := by
  intro above files path registry order visited
  obtain ⟨-, anyOrder, change, -⟩ := listings_stand_alone registry files "D/"
  have covers : registry.Order order := by
    refine ⟨by decide, fun stage fingerprint => ?_⟩
    simp only [registry, profile?_insert]
    cases stage <;> simp [order, empty, profile?, PerStage.both, PerStage.get]
  have led : files.locate path = .ok ["D", "Vertex", "asm", "5.asm"] := by decide +kernel
  have shown : files.node? ["D", "Vertex", "asm", "5.asm"] = some (.file "gMatPower".toUTF8) :=
    FileTree.node?_put_self above _ (by decide)
  have apart := FileTree.ApartInFile.of_remove led shown
  exact ⟨⟨covers, (anyOrder order covers).1, by decide +kernel⟩, apart, (change _ _ _ apart).1,
    by decide +kernel⟩

end Registry

end ShaderIdentity
