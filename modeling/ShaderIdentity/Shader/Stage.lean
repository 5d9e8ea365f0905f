import ShaderIdentity.Text.Digits

/-! The two programmable stages, the stage bits a host reports, and values kept once per stage. -/
namespace ShaderIdentity

inductive Stage where
  | vertex
  | pixel
  deriving DecidableEq, Repr

/-- The order in which everything that visits both stages does so. -/
def Stage.all : List Stage := [.vertex, .pixel]

def Stage.name : Stage → String
  | .vertex => "Vertex"
  | .pixel => "Pixel"

/-- A stage as a host reports it: one bit of a stage mask, not yet known to be supported. -/
structure RawStage where
  bits : UInt32
  deriving DecidableEq, Repr

/-- The bit by which a host names the stage. -/
def Stage.raw : Stage → RawStage
  | .vertex => ⟨0x1⟩
  | .pixel => ⟨0x10⟩

/-- The stage that exactly these bits name. -/
def RawStage.stage? (raw : RawStage) : Option Stage :=
  Stage.all.find? (fun stage => stage.raw = raw)

def RawStage.text (raw : RawStage) : String :=
  "0x" ++ String.ofList (Text.hex 8 raw.bits.toNat)

/-- One value for each stage. -/
structure PerStage (α : Type) where
  vertex : α
  pixel : α
  deriving DecidableEq, Repr

namespace PerStage

variable {α β : Type}

def both (a : α) : PerStage α := ⟨a, a⟩

def get (p : PerStage α) : Stage → α
  | .vertex => p.vertex
  | .pixel => p.pixel

def set (p : PerStage α) (stage : Stage) (a : α) : PerStage α :=
  match stage with
  | .vertex => { p with vertex := a }
  | .pixel => { p with pixel := a }

def update (p : PerStage α) (stage : Stage) (f : α → α) : PerStage α :=
  p.set stage (f (p.get stage))

/-- One value for each stage, made from the stage. -/
def ofStage (f : Stage → α) : PerStage α := ⟨f .vertex, f .pixel⟩

@[simp] theorem get_both (a : α) (stage : Stage) : (both a).get stage = a := by
  cases stage <;> rfl

@[simp] theorem get_ofStage (f : Stage → α) (stage : Stage) : (ofStage f).get stage = f stage := by
  cases stage <;> rfl

theorem get_set (p : PerStage α) (stage other : Stage) (a : α) :
    (p.set stage a).get other = if other = stage then a else p.get other := by
  cases stage <;> cases other <;> rfl

@[simp] theorem get_set_self (p : PerStage α) (stage : Stage) (a : α) :
    (p.set stage a).get stage = a := by
  rw [get_set, if_pos rfl]

theorem get_set_of_ne (p : PerStage α) {stage other : Stage} (a : α) (ne : other ≠ stage) :
    (p.set stage a).get other = p.get other := by
  rw [get_set, if_neg ne]

theorem get_update (p : PerStage α) (stage other : Stage) (f : α → α) :
    (p.update stage f).get other = if other = stage then f (p.get other) else p.get other := by
  rw [update, get_set]
  split
  · subst other
    rfl
  · rfl

theorem ext_get {p q : PerStage α} (same : ∀ stage, p.get stage = q.get stage) : p = q := by
  cases p; cases q
  exact congr (congrArg mk (same .vertex)) (same .pixel)

@[simp] theorem set_get (p : PerStage α) (stage : Stage) : p.set stage (p.get stage) = p := by
  cases stage <;> rfl

end PerStage

theorem RawStage.stage?_raw (stage : Stage) : stage.raw.stage? = some stage := by
  cases stage <;> decide

theorem RawStage.stage?_eq_some {raw : RawStage} {stage : Stage} :
    raw.stage? = some stage ↔ raw = stage.raw := by
  constructor
  · intro found
    simpa [eq_comm] using List.find?_some found
  · rintro rfl
    exact stage?_raw stage

end ShaderIdentity
