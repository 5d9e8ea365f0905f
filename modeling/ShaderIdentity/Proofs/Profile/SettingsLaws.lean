import ShaderIdentity.Profile.Settings
import ShaderIdentity.Proofs.Json.CanonicalLaws
import ShaderIdentity.Proofs.Json.DecoderLaws
import ShaderIdentity.Proofs.Json.RoundTrip

/-! Settings decode from the value that is written for them, and with them the part of a profile
that is written. -/
namespace ShaderIdentity.Settings

open Json Json.Decoder Json.Value

@[simp] theorem ofProfile_toProfile (settings : Settings) :
    ofProfile settings.toProfile = settings := rfl

theorem registers_ofValue (set : RegisterSet) :
    registers.ofValue (registersValue set) = .ok set := by
  have collected : Std.ExtTreeSet.ofList set.toList = set := by
    apply Std.ExtTreeSet.ext_mem
    intro register
    rw [Std.ExtTreeSet.mem_ofList, List.contains_iff_mem, Std.ExtTreeSet.mem_toList]
  rw [registers, map_ofValue, registersValue, sequence_ofValue word32_ofValue]
  exact congrArg Except.ok collected

theorem registersValue_canonical (set : RegisterSet) :
    (registersValue set).canonical = registersValue set := by
  have items : ∀ l : List UInt32,
      canonicalItems (l.map fun word => Value.number (.integer word.toNat)) =
        l.map fun word => Value.number (.integer word.toNat) := by
    intro l
    induction l with
    | nil => rfl
    | cons word rest ih => rw [List.map_cons, canonicalItems, ih, canonical]
  rw [registersValue, canonical, items]

/-- The canonical form lists the fields in the order of their names. -/
theorem toValue_canonical (settings : Settings) :
    settings.toValue.canonical = .object [
      ("Activate", .boolean settings.activate),
      ("ConstantPs", registersValue settings.watched.pixel),
      ("ConstantVs", registersValue settings.watched.vertex),
      ("ShaderFlags", .number (.integer settings.flags.bits.toNat))] := by
  rw [toValue, canonical]
  simp +decide only [canonicalMembers, registersValue_canonical, canonical, sortMembers,
    List.foldl, insertMember, if_true, if_false]

section
variable (settings : Settings)

theorem fill_activate (activate : Bool) :
    fillMember fields settings ("Activate", .boolean activate) =
      .ok { settings with activate } :=
  fillMember_ok (fun settings activate => { settings with activate }) rfl
    (boolean_ofValue activate) settings

theorem fill_shaderFlags (bits : UInt32) :
    fillMember fields settings ("ShaderFlags", .number (.integer bits.toNat)) =
      .ok { settings with flags := ⟨bits⟩ } :=
  fillMember_ok (fun settings bits => { settings with flags := ⟨bits⟩ }) rfl (word32_ofValue bits)
    settings

theorem fill_constantVs (set : RegisterSet) :
    fillMember fields settings ("ConstantVs", registersValue set) =
      .ok { settings with watched := settings.watched.set .vertex set } :=
  fillMember_ok (fun settings set =>
    { settings with watched := settings.watched.set .vertex set }) rfl (registers_ofValue set) settings

theorem fill_constantPs (set : RegisterSet) :
    fillMember fields settings ("ConstantPs", registersValue set) =
      .ok { settings with watched := settings.watched.set .pixel set } :=
  fillMember_ok (fun settings set =>
    { settings with watched := settings.watched.set .pixel set }) rfl (registers_ofValue set) settings

end

theorem ofValue_toValue_canonical (settings : Settings) :
    decoder.ofValue settings.toValue.canonical = .ok settings := by
  rw [toValue_canonical, decoder, record_ofValue_object]
  rw [List.foldlM_cons, fill_activate, ok_bind, List.foldlM_cons, fill_constantPs, ok_bind,
    List.foldlM_cons, fill_constantVs, ok_bind, List.foldlM_cons, fill_shaderFlags, ok_bind]
  rfl

theorem fits64_word (word : UInt32) : Fits64 word.toNat := by
  have small := word.toNat_lt
  simp only [Fits64, Numeral.greatestNegated, UInt64.size]
  omega

theorem registersValue_plain (depth : Nat) (set : RegisterSet) :
    (registersValue set).Plain (depth + 1) := by
  refine .array fun item mem => ?_
  obtain ⟨word, -, rfl⟩ := List.mem_map.mp mem
  exact .integer depth (fits64_word word)

theorem toValue_plain (depth : Nat) (settings : Settings) :
    settings.toValue.Plain (depth + 2) := by
  refine .object fun member mem => ?_
  rcases List.mem_cons.mp mem with rfl | mem
  · exact .boolean _ _
  rcases List.mem_cons.mp mem with rfl | mem
  · exact .integer _ (fits64_word _)
  rcases List.mem_cons.mp mem with rfl | mem
  · exact registersValue_plain depth _
  · rw [List.mem_singleton.mp mem]
    exact registersValue_plain depth _

end ShaderIdentity.Settings
