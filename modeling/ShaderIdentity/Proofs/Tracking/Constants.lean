import ShaderIdentity.Proofs.Tracking.Effects

/-! The constants that are held are a digest of all uploads that were kept. Registers come in the
order in which they were first uploaded, each with what was uploaded to it last. -/
namespace ShaderIdentity

open History

/-- What is held of an upload. -/
def Upload.constant (upload : Upload) : ConstantRecord :=
  ⟨upload.start, upload.count, upload.data.take (wordsPerRegister * upload.count.toNat)⟩

namespace ConstantShadow

/-! ## Records of one fingerprint -/

variable (constant : ConstantRecord) (records : List ConstantRecord)

theorem map_start_place :
    (place constant records).map (·.start) =
      if constant.start ∈ records.map (·.start) then records.map (·.start)
      else records.map (·.start) ++ [constant.start] := by
  induction records with
  | nil => rfl
  | cons other rest ih =>
    by_cases same : other.start = constant.start
    · simp [place, same]
    · simp only [place, if_neg same, List.map_cons, ih, List.mem_cons, Ne.symm same, false_or]
      split <;> rfl

theorem mem_place {record : ConstantRecord} (distinct : (records.map (·.start)).Nodup)
    (mem : record ∈ place constant records) :
    record = constant ∨ record ∈ records ∧ record.start ≠ constant.start := by
  induction records with
  | nil => exact .inl (List.mem_singleton.mp mem)
  | cons other rest ih =>
    obtain ⟨absent, distinct⟩ := List.nodup_cons.mp distinct
    by_cases same : other.start = constant.start
    · rw [place, if_pos same] at mem
      rcases List.mem_cons.mp mem with here | there
      · exact .inl here
      · refine .inr ⟨List.mem_cons_of_mem _ there, fun again => absent ?_⟩
        exact List.mem_map.mpr ⟨record, there, again.trans same.symm⟩
    · rw [place, if_neg same] at mem
      rcases List.mem_cons.mp mem with here | there
      · exact .inr ⟨here ▸ List.mem_cons_self, here ▸ same⟩
      · exact (ih distinct there).imp_right fun old => ⟨List.mem_cons_of_mem _ old.1, old.2⟩

/-- The records that some uploads leave. -/
def digest (uploads : List Upload) : List ConstantRecord :=
  uploads.foldl (fun records upload => place upload.constant records) []

theorem digest_snoc (uploads : List Upload) (last : Upload) :
    digest (uploads ++ [last]) = place last.constant (digest uploads) := by
  rw [digest, List.foldl_append]
  rfl

/-- Registers come once each, in the order of their first uploads. -/
theorem map_start_digest (uploads : List Upload) :
    (digest uploads).map (·.start) = (uploads.map (·.start)).eraseDups := by
  -- From the back, as uploads come in: only the last one can be for a new register.
  induction uploads using List.reverseRecOn with
  | nil => rfl
  | append_singleton uploads last ih =>
    have start : last.constant.start = last.start := rfl
    rw [digest_snoc, map_start_place, ih, start, List.map_append, List.eraseDups_append,
      List.map_singleton]
    by_cases old : last.start ∈ uploads.map (·.start)
    · rw [if_pos (List.mem_eraseDups.mpr old), List.removeAll,
        List.filter_cons_of_neg (by simpa using old)]
      exact (List.append_nil _).symm
    · rw [if_neg (mt List.mem_eraseDups.mp old), List.removeAll,
        List.filter_cons_of_pos (by simpa using old)]
      rfl

theorem nodup_starts (uploads : List Upload) : ((digest uploads).map (·.start)).Nodup := by
  induction uploads using List.reverseRecOn with
  | nil => exact List.nodup_nil
  | append_singleton uploads last ih =>
    rw [digest_snoc, map_start_place]
    split
    · exact ih
    · exact List.nodup_append.mpr ⟨ih, List.pairwise_singleton _ _, by simp_all⟩

theorem last_of_mem_digest {uploads : List Upload} {record : ConstantRecord}
    (mem : record ∈ digest uploads) :
    ∃ upload, Last (·.start = record.start) upload uploads ∧ record = upload.constant := by
  induction uploads using List.reverseRecOn with
  | nil => cases mem
  | append_singleton uploads last ih =>
    rw [digest_snoc] at mem
    rcases mem_place _ _ (nodup_starts uploads) mem with rfl | ⟨old, other⟩
    · exact ⟨last, (since_snoc _ _).mpr (.inl rfl), rfl⟩
    · obtain ⟨upload, latest, same⟩ := ih old
      exact ⟨upload, (since_snoc _ _).mpr (.inr ⟨Ne.symm other, latest⟩), same⟩

/-! ## All records -/

variable (shadow : ConstantShadow)

theorem ofKind_setKind (kind shown : ConstantKind) (map : ConstantMap) :
    (shadow.setKind kind map).ofKind shown = if shown = kind then map else shadow.ofKind shown := by
  cases kind <;> cases shown <;> rfl

/-- The upload adds to the records of its own kind and fingerprint and to no others. -/
theorem get?_record {shadow constants : ConstantShadow} {fingerprint : Fingerprint}
    {upload : Upload}
    (recorded : shadow.record upload.kind fingerprint upload.start upload.count upload.data =
      .ok constants) (kind : ConstantKind) (other : Fingerprint) :
    constants.get? kind other =
      if upload.kind = kind ∧ fingerprint = other then
        some (place upload.constant ((shadow.get? kind other).getD []))
      else shadow.get? kind other := by
  simp only [record] at recorded
  split at recorded
  case isTrue => cases recorded
  case isFalse =>
    cases recorded
    simp only [get?, ofKind_setKind]
    by_cases same : kind = upload.kind
    · subst same
      simp only [if_true, Std.ExtTreeMap.getElem?_insert, Std.LawfulEqOrd.compare_eq_iff_eq,
        true_and]
      split
      · subst_vars
        rfl
      · rfl
    · simp only [if_neg same, Ne.symm same, false_and, if_false]

theorem fits_of_record {shadow constants : ConstantShadow} {fingerprint : Fingerprint}
    {upload : Upload}
    (recorded : shadow.record upload.kind fingerprint upload.start upload.count upload.data =
      .ok constants) : wordsPerRegister * upload.count.toNat ≤ upload.data.length := by
  simp only [record] at recorded
  split at recorded
  · cases recorded
  · exact Nat.le_of_not_lt ‹_›

/-- The registers of which constants are held. -/
def starts (kind : ConstantKind) (fingerprint : Fingerprint) : List UInt32 :=
  ((shadow.get? kind fingerprint).getD []).map (·.start)

end ConstantShadow

namespace Effect

variable (kind : ConstantKind) (fingerprint : Fingerprint)

/-- The upload, if it was kept among the constants of the kind and the fingerprint. What is uploaded
while no fingerprint is bound is kept under `Fingerprint.unbound`. -/
def kept? : Effect → Option Upload
  | .uploaded upload current =>
    if upload.kind = kind ∧
        (current = some fingerprint ∨ current = none ∧ fingerprint = .unbound) then
      some upload
    else none
  | _ => none

theorem getD_unbound {current : Option Fingerprint} :
    current.getD .unbound = fingerprint ↔
      current = some fingerprint ∨ current = none ∧ fingerprint = .unbound := by
  cases current with
  | none => simp [eq_comm]
  | some other => simp

theorem eq_uploaded_of_kept? {effect : Effect} {upload : Upload} {kind : ConstantKind}
    {fingerprint : Fingerprint} (kept : effect.kept? kind fingerprint = some upload) :
    ∃ current, effect = .uploaded upload current := by
  unfold kept? at kept
  split at kept
  · split at kept
    · cases kept
      exact ⟨_, rfl⟩
    · cases kept
  · cases kept

end Effect

namespace Tracker

open ConstantShadow

section
variable (tracker : Tracker) (action : Action)

theorem recorded_of_accepted {upload : Upload} (accepted : (tracker.keep upload).answer = .ok ()) :
    ∃ constants, tracker.recorded upload = .ok constants ∧
      (tracker.keep upload).state.constants = constants := by
  cases recorded : tracker.recorded upload with
  | ok constants => exact ⟨constants, rfl, by rw [tracker.keep_recorded recorded]⟩
  | error err =>
    rw [tracker.keep_short recorded] at accepted
    cases accepted

/-- Constants change by uploads that are kept, and by nothing else. -/
theorem constants_act (other : ∀ upload bound, tracker.effect action ≠ .uploaded upload bound) :
    (tracker.act action).constants = tracker.constants := by
  rw [act_eq_apply]
  cases came : tracker.effect action with
  | uploaded upload bound => exact absurd came (other upload bound)
  | nothing | registered | bound | destroyed | periodEnded | profiles | amended => rfl

theorem fits_of_effect {upload : Upload} {bound : Option Fingerprint}
    (came : tracker.effect action = .uploaded upload bound) :
    wordsPerRegister * upload.count.toNat ≤ upload.data.length := by
  have comes := tracker.comesTo_effect action
  rw [came] at comes
  cases comes with
  | uploaded accepted =>
    obtain ⟨constants, recorded, -⟩ := tracker.recorded_of_accepted accepted
    exact fits_of_record recorded

theorem get?_act (kind : ConstantKind) (fingerprint : Fingerprint) :
    (tracker.act action).constants.get? kind fingerprint =
      match (tracker.effect action).kept? kind fingerprint with
      | some upload =>
        some (place upload.constant ((tracker.constants.get? kind fingerprint).getD []))
      | none => tracker.constants.get? kind fingerprint := by
  have comes := tracker.comesTo_effect action
  cases came : tracker.effect action with
  | uploaded upload bound =>
    rw [came] at comes
    cases comes with
    | uploaded accepted =>
      obtain ⟨constants, recorded, left⟩ := tracker.recorded_of_accepted accepted
      have left : (tracker.act action).constants = constants := by
        rw [act_eq_apply, came]
        exact left
      rw [left, get?_record recorded]
      simp only [Effect.kept?, Effect.getD_unbound]
      split <;> rfl
  | nothing | registered | bound | destroyed | periodEnded | profiles | amended =>
    rw [tracker.constants_act action (by simp [came])]
    rfl

end

section
variable (configuration : Configuration) (kind : ConstantKind) (fingerprint : Fingerprint)

/-- The uploads of a run that were kept for the kind and the fingerprint. -/
def uploads (actions : List Action) : List Upload :=
  ((new configuration).effects actions).filterMap (Effect.kept? kind fingerprint)

theorem uploads_append (actions later : List Action) :
    uploads configuration kind fingerprint (actions ++ later) =
      uploads configuration kind fingerprint actions ++
        (((new configuration).after actions).effects later).filterMap
          (Effect.kept? kind fingerprint) := by
  rw [uploads, effects_append, List.filterMap_append]
  rfl

theorem uploads_fit {actions : List Action} {upload : Upload}
    (mem : upload ∈ uploads configuration kind fingerprint actions) :
    wordsPerRegister * upload.count.toNat ≤ upload.data.length := by
  induction actions using List.reverseRecOn with
  | nil => cases mem
  | append_singleton actions last ih =>
    rw [uploads_append, List.mem_append] at mem
    rcases mem with before | now
    · exact ih before
    · obtain ⟨effect, made, kept⟩ := List.mem_filterMap.mp now
      obtain ⟨bound, shown⟩ := Effect.eq_uploaded_of_kept? kept
      have came : ((new configuration).after actions).effect last = .uploaded upload bound := by
        rw [← shown]
        exact (List.mem_singleton.mp made).symm
      exact fits_of_effect _ last came

/-- What is held under a kind and a fingerprint is the digest of the uploads kept for them. -/
theorem get?_history (actions : List Action) :
    ((new configuration).after actions).constants.get? kind fingerprint =
      if uploads configuration kind fingerprint actions = [] then none
      else some (digest (uploads configuration kind fingerprint actions)) := by
  induction actions using List.reverseRecOn with
  | nil => cases kind <;> simp [after, new, ConstantShadow.empty, get?, ofKind, uploads, effects]
  | append_singleton actions last ih =>
    rw [after_snoc, get?_act, uploads_append, ih, effects, effects]
    cases came : (((new configuration).after actions).effect last).kept? kind fingerprint with
    | none => simp [came]
    | some upload =>
      have grows : uploads configuration kind fingerprint actions ++ [upload] ≠ [] := by simp
      simp only [List.filterMap_cons, came, List.filterMap_nil, if_neg grows, digest_snoc]
      split
      · simp_all [digest]
      · rfl

theorem starts_history (actions : List Action) :
    ((new configuration).after actions).constants.starts kind fingerprint =
      ((uploads configuration kind fingerprint actions).map (·.start)).eraseDups := by
  rw [starts, get?_history]
  split
  case isTrue none => rw [none]; rfl
  case isFalse => exact map_start_digest _

/-- The constants that are held are those of the uploads that were kept: one record for each
register that constants were uploaded to, in the order of the first uploads, each with the words of
the last upload. Nothing but such an upload changes them, and no register is ever dropped. -/
theorem constants_history (actions : List Action) :
    let tracker := (new configuration).after actions
    let kept := uploads configuration kind fingerprint actions
    (tracker.constants.get? kind fingerprint = none ↔ kept = []) ∧
    (∀ records, tracker.constants.get? kind fingerprint = some records →
      records ≠ [] ∧
      records.map (·.start) = (kept.map (·.start)).eraseDups ∧
      ∀ record ∈ records, ∃ upload, Last (·.start = record.start) upload kept ∧
        record = ⟨upload.start, upload.count, upload.data.take (4 * upload.count.toNat)⟩ ∧
        record.data.length = 4 * upload.count.toNat) ∧
    (∀ action, (∀ upload bound, tracker.effect action ≠ .uploaded upload bound) →
      (tracker.act action).constants = tracker.constants) ∧
    ∀ later, tracker.constants.starts kind fingerprint <+:
      (tracker.after later).constants.starts kind fingerprint := by
  intro tracker kept
  have held : tracker.constants.get? kind fingerprint =
      if kept = [] then none else some (digest kept) :=
    get?_history configuration kind fingerprint actions
  refine ⟨by rw [held]; split <;> simp_all, fun records found => ?records,
    fun action => tracker.constants_act action, fun later => ?grows⟩
  case records =>
    rw [held] at found
    split at found
    · cases found
    case isFalse some =>
      cases found
      refine ⟨?_, map_start_digest kept, fun record mem => ?_⟩
      · intro empty
        obtain ⟨upload, mem⟩ := List.exists_mem_of_ne_nil kept some
        have start : upload.start ∈ kept.map (·.start) := List.mem_map_of_mem mem
        rw [← List.mem_eraseDups, ← map_start_digest, empty] at start
        cases start
      · obtain ⟨upload, last, rfl⟩ := last_of_mem_digest mem
        exact ⟨upload, last, rfl, List.length_take_of_le
          (uploads_fit configuration kind fingerprint last.mem)⟩
  case grows =>
    rw [← after_append, starts_history, starts_history, uploads_append, List.map_append,
      List.eraseDups_append]
    exact List.prefix_append _ _

end

end Tracker

end ShaderIdentity
