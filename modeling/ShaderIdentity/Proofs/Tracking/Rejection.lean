import ShaderIdentity.Proofs.Shader.WordScan
import ShaderIdentity.Proofs.Tracking.Effects
import ShaderIdentity.Proofs.Tracking.Transcript

/-! Calls that are refused. What is wrong with such a call shows in the call itself, in the files it
meets or in the limit on bytecode. It leaves no trace but one error that is reported, so a run goes
as if it had not been made. -/
namespace ShaderIdentity

/-! ## What is wrong with a call -/

/-- The bits name no stage. -/
def RawStage.Unsupported (raw : RawStage) : Prop :=
  raw.bits ≠ 0x1 ∧ raw.bits ≠ 0x10

/-- The document is there, and it cannot be read or is no document. -/
def Archive.Unusable (archive : Archive) (files : FileTree) : Prop :=
  (∃ err, err ≠ .notFound ∧ files.readText archive.path = .error err) ∨
    ∃ text rejection, files.readText archive.path = .ok text ∧
      Document.decode text = .error rejection

/-- Calls whose refusal is reported. What the other gives back is left to its caller to report. -/
def Call.reports : Call → Bool
  | .recordUpload .. => false
  | _ => true

namespace Tracker

variable (tracker : Tracker)

/-- Words are read up to the limit in the configuration, and their bytes up to the limit in the
registry. -/
def wordLimit : Nat :=
  min tracker.configuration.bytecodeLimit.toNat tracker.registry.bytecodeLimit

/-- What makes the tracker refuse a call. -/
def Refuses : Call → Prop
  | .created raw bytecode _ =>
    raw.Unsupported ∨ endToken ∉ tokensOf (bytecode.take tracker.registry.bytecodeLimit)
  | .createdFromWords raw words _ =>
    raw.Unsupported ∨ words = none ∨
      ∃ tokens, words = some tokens ∧ endToken ∉ tokens.take (tracker.wordLimit / 4)
  | .register _ _ bytecode =>
    endToken ∉ tokensOf (bytecode.take tracker.registry.bytecodeLimit)
  | .bound raw _ | .destroyed raw _ => raw.Unsupported
  | .uploaded raw _ _ count data => raw.Unsupported ∨ data.length < 4 * count.toNat
  | .recordUpload _ _ _ count data => data.length < 4 * count.toNat
  | .load files => tracker.configuration.archive.Unusable files
  | .save files => ∀ saved, Archive.replace files tracker.configuration.archive.path
      (Document.encode tracker.registry.profiles) ≠ (saved, .ok ())
  | .assign .. | .bind .. | .endPeriod | .edit .. | .insert .. | .remove .. => False

end Tracker

namespace Outcome

def errors {σ α : Type} (outcome : Outcome σ α) : Nat :=
  outcome.events.countP (·.level = .error)

/-- Whether the host is told that its call was refused. Where nothing is answered, an error that is
reported tells it. -/
def rejected (outcome : Outcome Tracker Reply) : Bool :=
  match outcome.answer with
  | .registered answer => !answer.isOk
  | .recorded answer => !answer.isOk
  | .loaded report => report.isNone
  | .saved answer _ => !answer.isOk
  | .profile _ => false
  | .done => outcome.errors ≠ 0

end Outcome

/-! ## Bytecode without an end -/

theorem RawStage.stage?_eq_none {raw : RawStage} : raw.stage? = none ↔ raw.Unsupported := by
  obtain ⟨bits⟩ := raw
  rw [Option.eq_none_iff_forall_ne_some]
  simp only [ne_eq, stage?_eq_some]
  constructor
  · intro other
    exact ⟨fun same => other .vertex (congrArg mk same),
      fun same => other .pixel (congrArg mk same)⟩
  · rintro ⟨notVertex, notPixel⟩ (_ | _) same
    · exact notVertex (congrArg RawStage.bits same)
    · exact notPixel (congrArg RawStage.bits same)

/-- The end token stands as early in a stream as in the words it was found in. -/
theorem endToken_mem_take {tokens : List UInt32} {count : Nat}
    (ended : countToEnd tokens = some count) (length : Nat) :
    endToken ∈ (tokens.take count).take length ↔ endToken ∈ tokens.take length := by
  simp only [endToken_mem_iff, countToEnd_take]
  constructor
  · rintro ⟨early, fits, -, found⟩
    exact ⟨early, fits, found⟩
  · rintro ⟨early, fits, found⟩
    have same : early = count := Option.some.inj (found.symm.trans ended)
    exact ⟨early, fits, Nat.le_of_eq same, found⟩

theorem streamLength_refused {bytes : List UInt8} {limit : Nat} :
    (∃ err, streamLength bytes limit = .error err) ↔ endToken ∉ tokensOf (bytes.take limit) := by
  rw [← countToEnd_eq_none, streamLength]
  cases countToEnd (tokensOf (bytes.take limit)) <;> simp

theorem Fingerprint.ofBytes_refused {bytes : List UInt8} {limit : Nat} :
    (∃ err, ofBytes bytes limit = .error err) ↔ endToken ∉ tokensOf (bytes.take limit) := by
  rw [← streamLength_refused, ofBytes]
  cases streamLength bytes limit with
  | error err => exact iff_of_true ⟨err, rfl⟩ ⟨err, rfl⟩
  | ok length => exact iff_of_false (fun ⟨_, refused⟩ => nomatch refused) (by simp)

/-- A stream that was found in words ends within a further limit as the words do. -/
theorem endToken_mem_stream {words : List UInt32} {limit : Nat} {stream : List UInt8}
    (found : streamOfWords (some words) limit = .ok stream) (other : Nat) :
    endToken ∈ tokensOf (stream.take other) ↔ endToken ∈ words.take (min limit other / 4) := by
  unfold streamOfWords at found
  simp only at found
  split at found
  case h_1 count ended =>
    cases found
    have shorter : min (other / 4) (limit / 4) = min limit other / 4 := by omega
    rw [tokensOf_take_bytesOf, endToken_mem_take ended, List.take_take, shorter]
  case h_2 => cases found

theorem endToken_not_mem_of_refused {words : List UInt32} {limit : Nat} {err : BytecodeError}
    (refused : streamOfWords (some words) limit = .error err) (other : Nat) :
    endToken ∉ words.take (min limit other / 4) := by
  unfold streamOfWords at refused
  simp only at refused
  split at refused
  case h_1 => cases refused
  case h_2 absent =>
    have shorter : min limit other / 4 ≤ limit / 4 := by omega
    intro mem
    exact countToEnd_eq_none.mp absent ((List.take_subset_take_left _ shorter) mem)

theorem ConstantShadow.record_refused {shadow : ConstantShadow} {kind : ConstantKind}
    {fingerprint : Fingerprint} {start count : UInt32} {data : List UInt32} :
    (∃ err, shadow.record kind fingerprint start count data = .error err) ↔
      data.length < 4 * count.toNat := by
  simp only [record]
  split
  case isTrue short => exact iff_of_true ⟨_, rfl⟩ short
  case isFalse fits => exact iff_of_false (fun ⟨_, refused⟩ => nomatch refused) fits

namespace Archive

variable {archive : Archive} {files : FileTree}

theorem load_refused (registry : Registry) :
    (∃ err, (archive.load files registry).answer = .error err) ↔ archive.Unusable files := by
  cases read : files.readText archive.path with
  | error fault =>
    by_cases absent : fault = .notFound
    · subst absent
      rw [archive.load_missing registry read]
      simp [Unusable, read]
    · rw [archive.load_unreadable registry read absent]
      exact iff_of_true ⟨_, rfl⟩ (.inl ⟨fault, absent, read⟩)
  | ok text =>
    cases decoded : Document.decode text with
    | error rejection =>
      rw [archive.load_rejected registry read decoded]
      exact iff_of_true ⟨_, rfl⟩ (.inr ⟨text, rejection, read, decoded⟩)
    | ok contents =>
      rw [(archive.load_decoded registry read decoded).2]
      simp [Unusable, read, decoded]

/-- An archive leaves it to its tracker to report that a load failed. -/
theorem load_errors (archive : Archive) (files : FileTree) (registry : Registry) :
    (archive.load files registry).errors = 0 := by
  rw [Outcome.errors, List.countP_eq_zero]
  intro event mem
  have reports := archive.load_reports registry event mem
  cases event with
  | documentMissing | entrySkipped | listingUnreadable | loaded => simp [Event.level]
  | _ => cases reports

end Archive

/-! ## What each call comes to -/

namespace Tracker

/-- A call that has something wrong with it is refused, which changes nothing and is reported by so
many errors. Any other call is accepted, and no error is reported. -/
inductive Judged (tracker : Tracker) (outcome : Outcome Tracker Reply) (reported : Nat)
    (wrong : Prop) : Prop where
  | refused (wrong : wrong) (told : outcome.rejected = true) (errors : outcome.errors = reported)
      (kept : outcome.state = tracker)
  | accepted (right : ¬ wrong) (told : outcome.rejected = false) (errors : outcome.errors = 0)

variable {tracker : Tracker}

theorem onStage_judged {α : Type} {raw : RawStage} {refused : CallError → α}
    {call : Stage → Outcome Tracker α} {reply : α → Reply} {wrong : Prop}
    (told : (Outcome.mk (reply (refused (.unsupportedStage raw))) tracker
      [.callIgnored (.unsupportedStage raw)]).rejected = true)
    (named : ∀ stage, Judged tracker ((call stage).mapAnswer reply) 1 wrong) :
    Judged tracker ((tracker.onStage raw refused call).mapAnswer reply) 1
      (raw.Unsupported ∨ wrong) := by
  unfold onStage
  cases shown : raw.stage? with
  | none => exact .refused (.inl (RawStage.stage?_eq_none.mp shown)) told rfl rfl
  | some stage =>
    have supported : ¬ raw.Unsupported := by
      rw [← RawStage.stage?_eq_none, shown]
      exact Option.some_ne_none stage
    cases named stage with
    | refused wrong told errors kept => exact .refused (.inr wrong) told errors kept
    | accepted right told errors => exact .accepted (by simp [supported, right]) told errors

theorem assign_errors (registry : Registry) (stage : Stage) (handle : Handle)
    (fingerprint : Fingerprint) : (registry.assign stage handle fingerprint).errors = 0 := by
  simp only [Outcome.errors, Registry.assign, List.countP_append, Nat.add_eq_zero_iff]
  constructor
  · split <;> rfl
  · split
    · split <;> rfl
    · rfl

variable (tracker)

/-- A call without an answer is accepted when it reports no error. -/
theorem done_judged {outcome : Outcome Tracker Unit} (errors : outcome.errors = 0)
    (reported : Nat) : Judged tracker (outcome.mapAnswer fun () => .done) reported False :=
  .accepted not_false (decide_eq_false (not_not.mpr errors)) errors

theorem bind_judged (stage : Stage) (handle : Handle) :
    Judged tracker ((tracker.bind stage handle).mapAnswer fun () => .done) 1 False := by
  refine tracker.done_judged ?_ 1
  simp only [Outcome.errors, bind]
  split <;> rfl

theorem rejectBytecode_judged (stage : Stage) (handle : Handle) (err : BytecodeError)
    {wrong : Prop} (is : wrong) :
    Judged tracker ((tracker.rejectBytecode stage handle err).mapAnswer .registered) 1 wrong :=
  .refused is rfl rfl rfl

theorem register_judged (stage : Stage) (handle : Handle) (bytecode : List UInt8) :
    Judged tracker ((tracker.register stage handle bytecode).mapAnswer .registered) 1
      (endToken ∉ tokensOf (bytecode.take tracker.registry.bytecodeLimit)) := by
  rw [register_eq]
  cases found : Fingerprint.ofBytes bytecode tracker.registry.bytecodeLimit with
  | error err =>
    have unended := Fingerprint.ofBytes_refused.mp ⟨err, found⟩
    exact tracker.rejectBytecode_judged stage handle err unended
  | ok fingerprint =>
    refine .accepted ?_ rfl (assign_errors tracker.registry stage handle fingerprint)
    rw [← Fingerprint.ofBytes_refused, found]
    simp

theorem registerWords_judged (stage : Stage) (words : Option (List UInt32)) (handle : Handle) :
    Judged tracker (Outcome.mapAnswer .registered
      (match streamOfWords words tracker.configuration.bytecodeLimit.toNat with
      | .ok bytecode => tracker.register stage handle bytecode
      | .error err => tracker.rejectBytecode stage handle err)) 1
      (words = none ∨ ∃ tokens, words = some tokens ∧
        endToken ∉ tokens.take (tracker.wordLimit / 4)) := by
  cases words with
  | none => exact tracker.rejectBytecode_judged stage handle .null (.inl rfl)
  | some tokens =>
    cases found : streamOfWords (some tokens) tracker.configuration.bytecodeLimit.toNat with
    | error err =>
      refine tracker.rejectBytecode_judged stage handle err (.inr ⟨tokens, rfl, ?_⟩)
      exact endToken_not_mem_of_refused found _
    | ok stream =>
      have judged := tracker.register_judged stage handle stream
      rw [endToken_mem_stream found] at judged
      simpa [wordLimit] using judged

theorem recordUpload_judged (stage : Stage) (kind : ConstantKind) (start count : UInt32)
    (data : List UInt32) :
    Judged tracker ((tracker.recordUpload stage kind start count data).mapAnswer .recorded) 0
      (data.length < 4 * count.toNat) := by
  cases recorded : tracker.recorded ⟨stage, kind, start, count, data⟩ with
  | error err =>
    have refused : tracker.recordUpload stage kind start count data = _ :=
      tracker.keep_short recorded
    rw [refused]
    exact .refused (ConstantShadow.record_refused.mp ⟨err, recorded⟩) rfl rfl rfl
  | ok constants =>
    have accepted : tracker.recordUpload stage kind start count data = _ :=
      tracker.keep_recorded recorded
    rw [accepted]
    refine .accepted ?_ rfl rfl
    rw [← ConstantShadow.record_refused, show tracker.constants.record _ _ _ _ _ = _ from recorded]
    simp

theorem shaderBound_judged (raw : RawStage) (handle : Handle) :
    Judged tracker ((tracker.shaderBound raw handle).mapAnswer fun () => .done) 1
      raw.Unsupported := by
  rw [← or_false raw.Unsupported]
  exact onStage_judged rfl fun stage => tracker.bind_judged stage handle

theorem shaderDestroyed_judged (raw : RawStage) (handle : Handle) :
    Judged tracker ((tracker.shaderDestroyed raw handle).mapAnswer fun () => .done) 1
      raw.Unsupported := by
  rw [← or_false raw.Unsupported]
  exact onStage_judged rfl fun stage => tracker.done_judged rfl 1

theorem constantsUploaded_judged (raw : RawStage) (kind : ConstantKind) (start count : UInt32)
    (data : List UInt32) :
    Judged tracker
      ((tracker.constantsUploaded raw kind start count data).mapAnswer fun () => .done) 1
      (raw.Unsupported ∨ data.length < 4 * count.toNat) := by
  refine onStage_judged rfl fun stage => ?_
  have judged := tracker.recordUpload_judged stage kind start count data
  cases recorded : tracker.recorded ⟨stage, kind, start, count, data⟩ with
  | error err =>
    have refused : tracker.recordUpload stage kind start count data = _ :=
      tracker.keep_short recorded
    rw [refused] at judged ⊢
    cases judged with
    | refused wrong => exact .refused wrong rfl rfl rfl
    | accepted _ told => cases told
  | ok constants =>
    have accepted : tracker.recordUpload stage kind start count data = _ :=
      tracker.keep_recorded recorded
    rw [accepted] at judged ⊢
    cases judged with
    | refused _ told => cases told
    | accepted right => exact .accepted right rfl rfl

theorem load_judged (files : FileTree) :
    Judged tracker ((tracker.load files).mapAnswer .loaded) 1
      (tracker.configuration.archive.Unusable files) := by
  have quiet := tracker.configuration.archive.load_errors files tracker.registry
  cases answered : (tracker.configuration.archive.load files tracker.registry).answer with
  | error err =>
    rw [tracker.load_failed answered]
    refine .refused ((Archive.load_refused tracker.registry).mp ⟨err, answered⟩) rfl ?_ rfl
    exact (List.countP_append ..).trans (congrArg (· + 1) quiet)
  | ok report =>
    simp only [load, answered]
    refine .accepted ?_ rfl quiet
    rw [← Archive.load_refused tracker.registry, answered]
    simp

theorem save_judged (files : FileTree) :
    Judged tracker (tracker.perform (.save files)) 1
      (∀ saved, Archive.replace files tracker.configuration.archive.path
        (Document.encode tracker.registry.profiles) ≠ (saved, .ok ())) := by
  rw [perform_save]
  cases done : Archive.replace files tracker.configuration.archive.path
    (Document.encode tracker.registry.profiles) with
  | mk saved answer =>
    cases answer with
    | ok =>
      rw [tracker.save_replaced done]
      exact .accepted (fun never => never saved rfl) rfl rfl
    | error err =>
      rw [tracker.save_failed done]
      exact .refused (fun _ same => nomatch same) rfl rfl rfl

theorem perform_judged (call : Call) :
    Judged tracker (tracker.perform call) (if call.reports then 1 else 0)
      (tracker.Refuses call) := by
  cases call with
  | created raw bytecode handle =>
    exact onStage_judged rfl fun stage => tracker.register_judged stage handle bytecode
  | createdFromWords raw words handle =>
    exact onStage_judged rfl fun stage => tracker.registerWords_judged stage words handle
  | register stage handle bytecode => exact tracker.register_judged stage handle bytecode
  | bound raw handle => exact tracker.shaderBound_judged raw handle
  | destroyed raw handle => exact tracker.shaderDestroyed_judged raw handle
  | uploaded raw kind start count data =>
    exact tracker.constantsUploaded_judged raw kind start count data
  | recordUpload stage kind start count data =>
    exact tracker.recordUpload_judged stage kind start count data
  | load files => exact tracker.load_judged files
  | save files => exact tracker.save_judged files
  | assign stage handle fingerprint =>
    exact tracker.done_judged (assign_errors tracker.registry stage handle fingerprint) 1
  | bind stage handle => exact tracker.bind_judged stage handle
  | endPeriod | edit | insert | remove => exact .accepted not_false rfl rfl

/-! ## Runs without their refusals -/

theorem act_of_rejected {action : Action} (refused : (tracker.outcome action).rejected = true) :
    tracker.act action = tracker := by
  cases action with
  | amend change => cases refused
  | call call =>
    cases tracker.perform_judged call with
    | refused _ _ _ kept => exact kept
    | accepted _ told => exact absurd refused (Bool.eq_false_iff.mp told)

/-- What is left of a run without the calls that were refused goes as it did among them. -/
theorem transcript_accepted (actions : List Action) :
    let kept := (tracker.transcript actions).filter (!·.outcome.rejected)
    tracker.after (kept.map (·.action)) = tracker.after actions ∧
      tracker.transcript (kept.map (·.action)) = kept := by
  induction actions generalizing tracker with
  | nil => exact ⟨rfl, rfl⟩
  | cons action rest ih =>
    obtain ⟨left, turns⟩ := ih (tracker.act action)
    cases told : (tracker.outcome action).rejected with
    | true =>
      rw [tracker.act_of_rejected told] at left turns
      have skipped : (tracker.transcript (action :: rest)).filter (!·.outcome.rejected) =
          (tracker.transcript rest).filter (!·.outcome.rejected) := by
        rw [transcript, tracker.act_of_rejected told, List.filter_cons_of_neg (by simp [told])]
      have same : tracker.after (action :: rest) = tracker.after rest :=
        congrArg (·.after rest) (tracker.act_of_rejected told)
      rw [skipped, same]
      exact ⟨left, turns⟩
    | false =>
      rw [transcript, List.filter_cons_of_pos (by simp [told])]
      exact ⟨left, congrArg (_ :: ·) turns⟩

/-- A call is refused for a stage that is not known, for bytecode that does not end within the
limit, for too few words, or for files that cannot be used, and for nothing else. Nothing changes
then, and one error is reported, unless that is left to the caller; no other call reports any. The
calls that are not refused go as they would go by themselves. -/
theorem refusals_leave_no_trace (configuration : Configuration) (history : List Action) :
    let tracker := (new configuration).after history
    let limit := configuration.bytecodeLimit.toNat
    ((∀ action ∈ history, action.Leaves Registry.bytecodeLimit) →
      tracker.registry.bytecodeLimit = limit ∧ tracker.wordLimit = limit) ∧
    (∀ call,
      let outcome := tracker.perform call
      (outcome.rejected = true ↔ tracker.Refuses call) ∧
      (outcome.rejected = true → outcome.state = tracker) ∧
      outcome.errors = if outcome.rejected = true ∧ call.reports = true then 1 else 0) ∧
    ∀ actions,
      let kept := (tracker.transcript actions).filter (!·.outcome.rejected)
      tracker.after (kept.map (·.action)) = tracker.after actions ∧
        tracker.transcript (kept.map (·.action)) = kept := by
  intro tracker limit
  refine ⟨fun leaves => ?limits, fun call => ?call, tracker.transcript_accepted⟩
  case limits =>
    have registry : tracker.registry.bytecodeLimit = limit :=
      (new configuration).after_bytecodeLimit leaves
    have configured : tracker.configuration = configuration := after_configuration _ history
    refine ⟨registry, ?_⟩
    rw [wordLimit, registry, configured, Nat.min_self]
  case call =>
    intro outcome
    cases tracker.perform_judged call with
    | refused wrong told errors kept =>
      have told : outcome.rejected = true := told
      exact ⟨iff_of_true told wrong, fun _ => kept, by simp [outcome, errors, told]⟩
    | accepted right told errors =>
      have told : outcome.rejected = false := told
      simp [outcome, right, told, errors]

/-- Too few words for the register of the world matrix, after the host removed a profile. -/
theorem short_upload_leaves_no_trace :
    let history : List Action := [.call (.assign .vertex ⟨1⟩ ⟨5⟩), .call (.bind .vertex ⟨1⟩),
      .amend (·.remove .vertex ⟨9⟩)]
    let tracker := (new ⟨"p", "d", false, 4096⟩).after history
    let call := Call.uploaded ⟨0x1⟩ .float 195 2 [1, 2, 3]
    (∀ action ∈ history, action.Leaves Registry.bytecodeLimit) ∧ tracker.wordLimit = 4096 ∧
      (tracker.perform call).rejected = true ∧ (tracker.perform call).state = tracker ∧
      (tracker.perform call).errors = 1 := by
  intro history tracker call
  have leaves : ∀ action ∈ history, action.Leaves Registry.bytecodeLimit := by
    simp [history, Action.Leaves, Registry.remove]
  obtain ⟨limits, calls, -⟩ := refusals_leave_no_trace ⟨"p", "d", false, 4096⟩ history
  obtain ⟨refused, kept, errors⟩ := calls call
  have told : (tracker.perform call).rejected = true := refused.mpr (.inr (by decide))
  refine ⟨leaves, (limits leaves).2, told, kept told, ?_⟩
  rw [errors, if_pos ⟨told, rfl⟩]

end Tracker

end ShaderIdentity
