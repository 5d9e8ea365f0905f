import ShaderIdentity.Profile.Listing

/-! What a listing mentions. No symbol has an end of a line in it, so a symbol stands in some line
of a text exactly when it stands in the text. -/
namespace ShaderIdentity.Listing

/-- The symbol stands somewhere in the text. -/
def Occurs (symbol text : String) : Prop :=
  ∃ before after, text = before ++ symbol ++ after

theorem occurs_iff {symbol text : String} : Occurs symbol text ↔ symbol.toList <:+: text.toList := by
  constructor
  · rintro ⟨before, after, rfl⟩
    exact ⟨before.toList, after.toList, by simp only [String.toList_append]⟩
  · rintro ⟨before, after, parts⟩
    refine ⟨.ofList before, .ofList after, String.toList_inj.mp ?_⟩
    rw [String.toList_append, String.toList_append, String.toList_ofList, String.toList_ofList, parts]

theorem mentions_iff (symbol text : List Char) : mentions symbol text = true ↔ symbol <:+: text := by
  induction text with
  | nil => rw [mentions, List.isEmpty_iff, List.infix_nil]
  | cons c rest ih =>
    rw [mentions, Bool.or_eq_true, List.isPrefixOf_iff_prefix, ih, List.infix_cons_iff]

/-! ## A character that the symbol does not have -/

variable {symbol : List Char} {c : Char}

theorem eq_nil_of_begins {rest : List Char} (absent : c ∉ symbol) (begins : symbol <+: c :: rest) :
    symbol = [] := by
  obtain nothing | ⟨tail, rfl, -⟩ := List.prefix_cons_iff.mp begins
  · exact nothing
  · exact absurd List.mem_cons_self absent

theorem infix_cons_absent (absent : c ∉ symbol) (rest : List Char) :
    symbol <:+: c :: rest ↔ symbol <:+: rest := by
  rw [List.infix_cons_iff]
  refine or_iff_right_of_imp fun begins => ?_
  rw [eq_nil_of_begins absent begins]
  exact List.nil_infix

/-- Nothing stands on both sides of such a character. -/
theorem infix_around_absent (absent : c ∉ symbol) (text other : List Char) :
    symbol <:+: text ++ c :: other ↔ symbol <:+: text ∨ symbol <:+: other := by
  rw [List.infix_append_iff, infix_cons_absent absent]
  constructor
  · rintro (inText | inOther | ⟨left, right, rfl, ends, begins⟩)
    · exact .inl inText
    · exact .inr inOther
    · rw [eq_nil_of_begins (fun mem => absent (List.mem_append_right left mem)) begins,
        List.append_nil]
      exact .inl ends.isInfix
  · exact Or.imp_right .inl

/-! ## Lines -/

/-- Texts that no end of a line can be part of. -/
structure Unbroken (symbol : List Char) : Prop where
  filled : symbol ≠ []
  newline : '\n' ∉ symbol
  carriage : '\r' ∉ symbol

theorem lines_eq_nil {text : List Char} (none : lines text = []) : text = [] := by
  unfold lines at none
  split at none
  case h_1 => rfl
  case h_2 | h_3 => cases none
  case h_4 => split at none <;> cases none

/-- What has no end of a line in it begins a text if it begins the first line of the text. -/
theorem prefix_first_line {text line : List Char} {others : List (List Char)}
    (split : lines text = line :: others) (newline : '\n' ∉ symbol) (carriage : '\r' ∉ symbol) :
    symbol <+: line ↔ symbol <+: text := by
  induction symbol generalizing text line others with
  | nil => simp
  | cons d symbol ih =>
    rw [List.mem_cons, not_or] at newline carriage
    unfold lines at split
    split at split
    case h_1 => cases split
    case h_2 =>
      obtain ⟨rfl, -⟩ := List.cons.inj split
      simp [List.cons_prefix_cons, Ne.symm carriage.1]
    case h_3 =>
      obtain ⟨rfl, -⟩ := List.cons.inj split
      simp [List.cons_prefix_cons, Ne.symm newline.1]
    case h_4 c rest _ _ =>
      split at split
      case h_1 none =>
        obtain ⟨rfl, -⟩ := List.cons.inj split
        rw [lines_eq_nil none]
      case h_2 first _ further =>
        obtain ⟨rfl, -⟩ := List.cons.inj split
        rw [List.cons_prefix_cons, List.cons_prefix_cons, ih further newline.2 carriage.2]

/-- Nothing is found in a line that is not in the text, and nothing in the text is lost between two
lines. -/
theorem infix_lines (unbroken : Unbroken symbol) (text : List Char) :
    (∃ line ∈ lines text, symbol <:+: line) ↔ symbol <:+: text := by
  fun_induction lines text with
  | case1 => simp [unbroken.filled]
  | case2 rest ih =>
    rw [infix_cons_absent unbroken.carriage, infix_cons_absent unbroken.newline, ← ih]
    simp [unbroken.filled]
  | case3 rest ih =>
    rw [infix_cons_absent unbroken.newline, ← ih]
    simp [unbroken.filled]
  | case4 c rest _ _ none ih =>
    rw [lines_eq_nil none]
    simp
  | case5 c rest _ _ line others further ih =>
    -- The line goes on with `rest`, so what begins with `c` is found in it up to its end only.
    have begins : symbol <+: c :: line ↔ symbol <+: c :: rest := by
      rw [List.prefix_cons_iff, List.prefix_cons_iff]
      refine or_congr_right (exists_congr fun tail => and_congr_right fun whole => ?_)
      subst whole
      exact prefix_first_line further (List.not_mem_of_not_mem_cons unbroken.newline)
        (List.not_mem_of_not_mem_cons unbroken.carriage)
    rw [List.infix_cons_iff, ← ih, further, ← begins]
    simp only [List.mem_cons, exists_eq_or_imp, List.infix_cons_iff, or_assoc]

/-! ## Symbols -/

theorem unbroken_of_mem {stage : Stage} {symbol : String} {register : UInt32}
    (known : (symbol, register) ∈ symbols stage) : Unbroken symbol.toList := by
  have all : ∀ entry ∈ symbols stage, entry.1.toList ≠ [] ∧
      '\n' ∉ entry.1.toList ∧ '\r' ∉ entry.1.toList := by cases stage <;> decide
  obtain ⟨filled, newline, carriage⟩ := all _ known
  exact ⟨filled, newline, carriage⟩

theorem infix_lines_iff_occurs {stage : Stage} {symbol : String} {register : UInt32}
    (known : (symbol, register) ∈ symbols stage) (text : String) :
    (∃ line ∈ lines text.toList, symbol.toList <:+: line) ↔ Occurs symbol text := by
  rw [infix_lines (unbroken_of_mem known), occurs_iff]

theorem mem_registers {stage : Stage} {text : String} {register : UInt32} :
    register ∈ registers stage text ↔
      ∃ symbol, (symbol, register) ∈ symbols stage ∧ Occurs symbol text := by
  simp only [registers, Std.ExtTreeSet.mem_ofList, List.contains_iff_mem, List.mem_map,
    List.mem_flatMap, List.mem_filter, mentions_iff]
  constructor
  · rintro ⟨⟨symbol, _⟩, ⟨line, among, known, stands⟩, rfl⟩
    exact ⟨symbol, known, (infix_lines_iff_occurs known text).mp ⟨line, among, stands⟩⟩
  · rintro ⟨symbol, known, occurs⟩
    obtain ⟨line, among, stands⟩ := (infix_lines_iff_occurs known text).mpr occurs
    exact ⟨(symbol, register), ⟨line, among, known, stands⟩, rfl⟩

theorem occurs_joined {stage : Stage} {symbol : String} {register : UInt32}
    (known : (symbol, register) ∈ symbols stage) (text other : String) :
    (Occurs symbol (text ++ "\n" ++ other) ↔ Occurs symbol text ∨ Occurs symbol other) ∧
      (Occurs symbol (text ++ "\r\n" ++ other) ↔ Occurs symbol text ∨ Occurs symbol other) := by
  have unbroken := unbroken_of_mem known
  have newline : "\n".toList = ['\n'] := rfl
  have both : "\r\n".toList = ['\r', '\n'] := rfl
  simp only [occurs_iff, String.toList_append, newline, both, List.append_assoc,
    List.cons_append, List.nil_append, infix_around_absent unbroken.newline,
    infix_around_absent unbroken.carriage, infix_cons_absent unbroken.newline, and_self]

theorem registers_joined (stage : Stage) {text other joined : String}
    (apart : ∀ symbol register, (symbol, register) ∈ symbols stage →
      (Occurs symbol joined ↔ Occurs symbol text ∨ Occurs symbol other)) :
    registers stage joined = registers stage text ∪ registers stage other := by
  refine Std.ExtTreeSet.ext_mem fun register => ?_
  rw [Std.ExtTreeSet.mem_union_iff, mem_registers, mem_registers, mem_registers, ← exists_or]
  refine exists_congr fun symbol => ?_
  rw [← and_or_left]
  exact and_congr_right (apart symbol register)

/-- The registers that a listing gives are those of the symbols that stand anywhere in it, whatever
its lines are. So those of two texts with an end of a line between them are those of both, and no
part of a text gives more than the text. -/
theorem registers_of_whole_text (stage : Stage) (text : String) :
    (∀ register, register ∈ registers stage text ↔
      ∃ symbol, (symbol, register) ∈ symbols stage ∧ Occurs symbol text) ∧
    (∀ symbol register, (symbol, register) ∈ symbols stage →
      ((∃ line ∈ lines text.toList, symbol.toList <:+: line) ↔ Occurs symbol text)) ∧
    (∀ other,
      registers stage (text ++ "\n" ++ other) = registers stage text ∪ registers stage other ∧
      registers stage (text ++ "\r\n" ++ other) = registers stage text ∪ registers stage other) ∧
    ∀ before after, ∀ register ∈ registers stage text,
      register ∈ registers stage (before ++ text ++ after) := by
  refine ⟨fun register => mem_registers, fun symbol register known =>
    infix_lines_iff_occurs known text, fun other => ⟨?_, ?_⟩, ?_⟩
  · exact registers_joined stage fun _ _ known => (occurs_joined known text other).1
  · exact registers_joined stage fun _ _ known => (occurs_joined known text other).2
  · intro before after register mem
    rw [mem_registers] at mem ⊢
    obtain ⟨symbol, known, ahead, behind, rfl⟩ := mem
    exact ⟨symbol, known, before ++ ahead, behind ++ after, by simp only [String.append_assoc]⟩

/-- A symbol that a line end breaks, two that share a line with nothing between them, and the same
text with more around it. -/
theorem broken_symbol_not_found :
    let text := "gMat\r\nPower gFadeColorgAmbientColor"
    ("gFadeColor", 2) ∈ symbols .vertex ∧
      (∃ line ∈ lines text.toList, "gFadeColor".toList <:+: line) ∧
      2 ∈ registers .vertex text ∧ 4 ∉ registers .vertex text ∧
      2 ∈ registers .vertex ("gMat" ++ text ++ "\r") := by
  intro text
  obtain ⟨whole, found, _, more⟩ := registers_of_whole_text .vertex text
  have known : ("gFadeColor", 2) ∈ symbols .vertex := by decide
  have occurs : Occurs "gFadeColor" text := ⟨"gMat\r\nPower ", "gAmbientColor", by decide⟩
  have watched : 2 ∈ registers .vertex text := (whole 2).mpr ⟨_, known, occurs⟩
  exact ⟨known, (found _ _ known).mpr occurs, watched, by decide, more "gMat" "\r" 2 watched⟩

end ShaderIdentity.Listing
