import ShaderIdentity.Proofs.Shader.WordScan
import ShaderIdentity.Proofs.Tracking.Effects

/-! Shaders that are handed over as a pointer to their words. They are taken like shaders that are
handed over as bytes. -/
namespace ShaderIdentity.Tracker

/-- The bytes that were found in the words are scanned once more, to the same end. -/
theorem register_take (tracker : Tracker) (stage : Stage) (handle : Handle) {words : List UInt32}
    {length : Nat}
    (found : streamLength (bytesOf words) tracker.registry.bytecodeLimit = .ok length) :
    tracker.register stage handle ((bytesOf words).take length) =
      tracker.register stage handle (bytesOf words) := by
  have same : Fingerprint.ofBytes ((bytesOf words).take length) tracker.registry.bytecodeLimit =
      Fingerprint.ofBytes (bytesOf words) tracker.registry.bytecodeLimit := by
    rw [Fingerprint.ofBytes, Fingerprint.ofBytes, (streamLength_take found).2, found]
    change Except.ok (Fingerprint.mk (Checksum.crc32 (List.take length (List.take length _)))) = _
    rw [List.take_take, Nat.min_self]
    rfl
  rw [register_eq, register_eq, same]

theorem register_malformed (tracker : Tracker) (stage : Stage) (handle : Handle)
    {bytes : List UInt8} {err : BytecodeError}
    (malformed : streamLength bytes tracker.registry.bytecodeLimit = .error err) :
    tracker.register stage handle bytes = tracker.rejectBytecode stage handle err := by
  have refused : Fingerprint.ofBytes bytes tracker.registry.bytecodeLimit = .error err := by
    rw [Fingerprint.ofBytes, malformed]
    rfl
  rw [register_eq, refused]

theorem shaderCreatedFromWords_eq {tracker : Tracker}
    (limits : tracker.registry.bytecodeLimit = tracker.configuration.bytecodeLimit.toNat)
    (raw : RawStage) (words : List UInt32) (handle : Handle) :
    tracker.shaderCreatedFromWords raw (some words) handle =
      tracker.shaderCreated raw (bytesOf words) handle := by
  unfold shaderCreatedFromWords shaderCreated
  congr 1
  funext stage
  rw [← limits, streamOfWords_eq]
  cases found : streamLength (bytesOf words) tracker.registry.bytecodeLimit with
  | ok length => exact tracker.register_take stage handle found
  | error err => exact (tracker.register_malformed stage handle found).symm

/-- Words give the stream that their bytes give, and the same error when there is none. Memory is
read up to the end token or the limit and may hold anything behind them. A shader that is created
from words is registered, answered and reported as one that is created from their bytes. -/
theorem words_as_bytes (words : List UInt32) (limit : Nat)
    (readable : endToken ∈ words ∨ limit / 4 ≤ words.length) :
    let bytes := bytesOf words
    streamOfWords (some words) limit = (streamLength bytes limit).map (bytes.take ·) ∧
    (∀ memory : Nat → Option UInt32,
      (∀ index, Scanned words limit index → memory index = words[index]?) →
      streamInMemory memory limit = .ok (streamOfWords (some words) limit)) ∧
    ∀ (configuration : Configuration) (actions : List Action),
      configuration.bytecodeLimit.toNat = limit →
      (∀ action ∈ actions, action.Leaves Registry.bytecodeLimit) →
      let tracker := (new configuration).after actions
      (∀ raw handle, tracker.perform (.createdFromWords raw (some words) handle) =
        tracker.perform (.created raw bytes handle)) ∧
      ∀ stream, streamOfWords (some words) limit = .ok stream →
        streamLength stream tracker.registry.bytecodeLimit = .ok stream.length := by
  intro bytes
  refine ⟨streamOfWords_eq words limit, fun memory => streamInMemory_eq readable,
    fun configuration actions limited leaves => ?_⟩
  intro tracker
  have kept : tracker.registry.bytecodeLimit = configuration.bytecodeLimit.toNat :=
    (new configuration).after_bytecodeLimit leaves
  have configured : tracker.configuration = configuration := after_configuration _ actions
  refine ⟨fun raw handle => ?_, fun stream found => ?_⟩
  · have same := shaderCreatedFromWords_eq (kept.trans (by rw [configured])) raw words handle
    exact congrArg (Outcome.mapAnswer Reply.registered) same
  · rw [streamOfWords_eq] at found
    cases shown : streamLength (bytesOf words) limit with
    | error err => rw [shown] at found; cases found
    | ok length =>
      rw [shown] at found
      cases found
      obtain ⟨whole, again⟩ := streamLength_take shown
      rw [kept, limited, whole]
      exact again

/-- A limit in the middle of a word, and memory that ends with the end token. -/
theorem words_as_bytes_at_edge :
    let words : List UInt32 := [0xFFFE0200, endToken, 7]
    let memory (index : Nat) : Option UInt32 := if index < 2 then words[index]? else none
    let tracker := (new ⟨"p", "d", false, 11⟩).after [.amend (·.remove .vertex ⟨9⟩)]
    (endToken ∈ words ∨ 11 / 4 ≤ words.length) ∧
      streamInMemory memory 11 = .ok (.ok (bytesOf [0xFFFE0200, endToken])) ∧
      ∀ handle, tracker.perform (.createdFromWords ⟨0x1⟩ (some words) handle) =
        tracker.perform (.created ⟨0x1⟩ (bytesOf words) handle) := by
  intro words memory tracker
  have readable : endToken ∈ words ∨ 11 / 4 ≤ words.length := .inl (by decide)
  obtain ⟨-, reads, creates⟩ := words_as_bytes words 11 readable
  refine ⟨readable, ?_, (creates ⟨"p", "d", false, 11⟩ _ rfl ?_).1 ⟨0x1⟩⟩
  · have found : streamOfWords (some words) 11 = .ok (bytesOf [0xFFFE0200, endToken]) := rfl
    rw [reads memory fun index scanned => if_pos scanned.1, found]
  · simp [Action.Leaves, Registry.remove]

end ShaderIdentity.Tracker
