import DaZeus.Library.ReferenceCount
import DaZeus.Library.TransitionSystem

/-!
# JSON handles

The class `JSON`: its constructors, its destructor and its assignments, which
implement one another.  jansson is a submodule, so what it does to a reference
count is a parameter.
-/

namespace DaZeus

open Library

abbrev HandleId := Nat

/-- Where a `json_t` lies.  The address of a freed value is given out again. -/
abbrev ValueAddress := Nat

/-- The handles of a program. -/
structure JsonHandles where
  live : Finset HandleId := ∅
  /-- The member `json` of each handle. -/
  json : HandleId → Option ValueAddress := fun _ => none
  /-- The values that are not freed. -/
  values : ValueAddress → Option Refcount
  /-- A freed value was released or taken. -/
  fault : Bool := false

/-- A `json_t *` that its receiver becomes responsible for. -/
inductive JsonReference where
  | null
  /-- To a value that was created for it. -/
  | new (value : ValueAddress)
  /-- `json_incref` of a value that there is. -/
  | another (value : ValueAddress)

namespace JsonHandles

variable (jansson : Counting) (this o : HandleId) (state : JsonHandles)

def jsonIncref (value : ValueAddress) : JsonHandles :=
  { state with
    values := jansson.take state.values value
    fault := state.fault || (state.values value).isNone }

def jsonDecref (value : ValueAddress) : JsonHandles :=
  { state with
    values := jansson.giveBack state.values value
    fault := state.fault || (state.values value).isNone }

/-- Assign to the member `json` of a handle. -/
def setJson (pointer : Option ValueAddress) : JsonHandles :=
  { state with json := Function.update state.json this pointer }

/-- The handle comes to life, with this in its member `json`. -/
def enter (pointer : Option ValueAddress) : JsonHandles :=
  { state with
    live := insert this state.live
    json := Function.update state.json this pointer }

/-- The pointer that the program gets with a reference. -/
def receive : JsonReference → Option ValueAddress × JsonHandles
  | .null => (none, state)
  | .new value =>
      (some value,
        { state with values := Function.update state.values value (some (.counted 1)) })
  | .another value => (some value, state.jsonIncref jansson value)

/-! ## Assignments -/

def copyAssign : JsonHandles :=
  let state := match state.json this with
    | some own => state.jsonDecref jansson own
    | none => state
  match state.json o with
  | some value => (state.jsonIncref jansson value).setJson this (some value)
  | none => state

def moveAssign : JsonHandles :=
  let j := state.json o
  let state := state.setJson o (state.json this)
  state.setJson this j

/-! ## Constructors and the destructor -/

/-- `JSON(std::string, size_t)`, with what `json_loads` returns.  The exception leaves
no handle. -/
def fromText (loaded : JsonReference) : JsonHandles :=
  match state.receive jansson loaded with
  | (none, state) => state
  | (some value, state) => state.enter this (some value)

def fromJsonT (t : JsonReference) : JsonHandles :=
  let (pointer, state) := state.receive jansson t
  state.enter this pointer

def construct : JsonHandles := state.enter this none

def copyConstruct : JsonHandles := (state.enter this none).copyAssign jansson this o

/-- The member `json` is not initialised before the assignment. -/
def moveConstruct (uninitialised : Option ValueAddress) : JsonHandles :=
  (state.enter this uninitialised).moveAssign this o

def destroy : JsonHandles :=
  let state := match state.json this with
    | some own => state.jsonDecref jansson own
    | none => state
  { state with live := state.live.erase this }

/-! ## Programs -/

/-- What a program does to its handles. -/
inductive Operation where
  | fromText (this : HandleId) (loaded : JsonReference)
  | fromJsonT (this : HandleId) (t : JsonReference)
  | construct (this : HandleId)
  | copyConstruct (this o : HandleId)
  | moveConstruct (this o : HandleId) (uninitialised : Option ValueAddress)
  | destroy (this : HandleId)
  | copyAssign (this o : HandleId)
  | moveAssign (this o : HandleId)

def perform : Operation → JsonHandles
  | .fromText this loaded => state.fromText jansson this loaded
  | .fromJsonT this t => state.fromJsonT jansson this t
  | .construct this => state.construct this
  | .copyConstruct this o => state.copyConstruct jansson this o
  | .moveConstruct this o uninitialised => state.moveConstruct this o uninitialised
  | .destroy this => state.destroy jansson this
  | .copyAssign this o => state.copyAssign jansson this o
  | .moveAssign this o => state.moveAssign this o

/-- A new value lies where there is none, and one that is taken again is there. -/
def Available : JsonReference → Prop
  | .null => True
  | .new value => state.values value = none
  | .another value => state.values value ≠ none

/-- A value that `json_loads` returns is new, unless it is a constant. -/
def Loadable : JsonReference → Prop
  | .another value => state.values value = some .constant
  | loaded => state.Available loaded

/-- The program constructs handles that are not alive, and uses those that are. -/
def Possible : Operation → Prop
  | .fromText this loaded => this ∉ state.live ∧ state.Loadable loaded
  | .fromJsonT this t => this ∉ state.live ∧ state.Available t
  | .construct this => this ∉ state.live
  | .copyConstruct this o => this ∉ state.live ∧ o ∈ state.live
  | .moveConstruct this o _ => this ∉ state.live ∧ o ∈ state.live
  | .destroy this => this ∈ state.live
  | .copyAssign this o => this ∈ state.live ∧ o ∈ state.live
  | .moveAssign this o => this ∈ state.live ∧ o ∈ state.live

/-- Before the program there are the constants of jansson only. -/
def system : TransitionSystem JsonHandles Operation where
  initial state := state.live = ∅ ∧ state.fault = false ∧
    ∀ value refcount, state.values value = some refcount → refcount = .constant
  step before operation after :=
    before.Possible operation ∧ after = before.perform jansson operation

/-- A freed value has no handle, and the count of every other one, a constant apart, is the
number of its handles, of which there is one at least. -/
structure Consistent : Prop where
  sound : state.fault = false
  balanced : Balanced state.values state.live state.json

/-- A pointer that no reference belongs to. -/
def Idle (pointer : Option ValueAddress) : Prop :=
  ∀ value, pointer = some value → state.values value = some .constant

/-- A handle with a reference is not assigned an empty one, and the only handle of a value is
not assigned itself; what a move finds in a new handle is not a pointer to a value. -/
def Careful : Operation → Prop
  | .copyAssign this o =>
      (state.json o = none → state.Idle (state.json this)) ∧
        (this = o → ∀ value, state.json this = some value →
          state.values value ≠ some (.counted 1))
  | .moveConstruct _ _ uninitialised => state.Idle uninitialised
  | _ => True

/-! ## What one handle does -/

variable {jansson this o state} {value : ValueAddress} {pointer : Option ValueAddress}

theorem setJson_self (same : state.json this = pointer) : state.setJson this pointer = state := by
  unfold setJson
  rw [← same, Function.update_eq_self]

theorem setJson_setJson (first : Option ValueAddress) :
    (state.setJson this first).setJson this pointer = state.setJson this pointer := by
  simp [setJson]

/-- Nothing goes wrong at a value that is not freed. -/
theorem fault_of_allocated (allocated : state.values value ≠ none) :
    (state.fault || (state.values value).isNone) = state.fault := by
  rw [Option.isNone_eq_false_iff.mpr (Option.isSome_iff_ne_none.mpr allocated), Bool.or_false]

theorem enter_some (this : HandleId) (state : JsonHandles) (value : ValueAddress) :
    state.enter this (some value) = (state.enter this none).setJson this (some value) := by
  simp [JsonHandles.enter, setJson]

theorem mem_live_enter : this ∈ (state.enter this pointer).live := Finset.mem_insert_self ..

theorem mem_live_enter_of_mem (live : o ∈ state.live) : o ∈ (state.enter this pointer).live :=
  Finset.mem_insert_of_mem live

theorem json_enter : (state.enter this pointer).json this = pointer := Function.update_self ..

theorem Consistent.enter (consistent : state.Consistent) (absent : this ∉ state.live) :
    (state.enter this none).Consistent :=
  ⟨consistent.sound, consistent.balanced.enter absent⟩

theorem Consistent.release (consistent : state.Consistent) (lawful : jansson.Lawful)
    (live : this ∈ state.live) (has : state.json this = some value) :
    ((state.jsonDecref jansson value).setJson this none).Consistent where
  sound := (fault_of_allocated (consistent.balanced.allocated live has)).trans consistent.sound
  balanced := consistent.balanced.release lawful live has

/-- An empty handle can take a reference to the values that there are. -/
theorem Consistent.acquire_iff (consistent : state.Consistent) (lawful : jansson.Lawful)
    (live : this ∈ state.live) (empty : state.json this = none) :
    ((state.jsonIncref jansson value).setJson this (some value)).Consistent ↔
      state.values value ≠ none := by
  constructor
  · intro after missing
    have sound := after.sound
    simp [setJson, jsonIncref, missing] at sound
  · intro allocated
    exact ⟨(fault_of_allocated allocated).trans consistent.sound,
      consistent.balanced.acquire lawful live empty allocated⟩

theorem Consistent.setJson_iff (consistent : state.Consistent) (live : this ∈ state.live)
    (empty : state.json this = none) :
    (state.setJson this pointer).Consistent ↔ state.Idle pointer := by
  cases pointer with
  | none =>
      rw [setJson_self empty]
      exact iff_of_true consistent nofun
  | some value =>
      constructor
      · rintro after _ ⟨⟩
        exact (consistent.balanced.borrow_iff live empty).mp after.balanced
      · intro idle
        exact ⟨consistent.sound,
          (consistent.balanced.borrow_iff live empty).mpr (idle value rfl)⟩

/-! ## A handle lets go of its value -/

variable (jansson this state) in
/-- The handle is empty afterwards. -/
def clear : JsonHandles :=
  match state.json this with
  | some own => (state.jsonDecref jansson own).setJson this none
  | none => state

theorem mem_live_clear (live : o ∈ state.live) : o ∈ (state.clear jansson this).live := by
  unfold clear
  split
  · exact live
  · exact live

theorem clear_json : (state.clear jansson this).json this = none := by
  unfold clear
  split
  · exact Function.update_self ..
  · next empty => exact empty

theorem clear_json_of_ne (different : o ≠ this) :
    (state.clear jansson this).json o = state.json o := by
  unfold clear
  split
  · exact Function.update_of_ne different ..
  · rfl

theorem clear_values (has : state.json this = some value) :
    (state.clear jansson this).values value = (state.values value).bind jansson.decref := by
  unfold clear
  rw [has]
  exact Function.update_self ..

theorem Consistent.clear (consistent : state.Consistent) (lawful : jansson.Lawful)
    (live : this ∈ state.live) : (state.clear jansson this).Consistent := by
  unfold JsonHandles.clear
  split
  · next has => exact consistent.release lawful live has
  · exact consistent

/-! ## Assignments -/

theorem copyAssign_of_none (empty : state.json o = none) :
    state.copyAssign jansson this o =
      (state.clear jansson this).setJson this (state.json this) := by
  unfold copyAssign clear
  cases has : state.json this with
  | none =>
      dsimp only
      rw [empty, setJson_self has]
  | some own =>
      have unchanged : (state.jsonDecref jansson own).json o = none := empty
      have kept : (state.jsonDecref jansson own).json this = some own := has
      dsimp only
      rw [unchanged, setJson_setJson, setJson_self kept]

theorem copyAssign_of_some (has : state.json o = some value) :
    state.copyAssign jansson this o =
      ((state.clear jansson this).jsonIncref jansson value).setJson this (some value) := by
  unfold copyAssign clear
  cases state.json this with
  | none =>
      dsimp only
      rw [has]
  | some own =>
      have unchanged : (state.jsonDecref jansson own).json o = some value := has
      dsimp only
      rw [unchanged]
      exact (setJson_setJson none).symm

/-- What the handle had is a constant afterwards if it was one. -/
theorem Consistent.clear_idle_iff (consistent : state.Consistent) (lawful : jansson.Lawful)
    (live : this ∈ state.live) :
    (state.clear jansson this).Idle (state.json this) ↔ state.Idle (state.json this) := by
  unfold Idle
  apply forall_congr'
  intro value
  apply imp_congr_right
  intro has
  obtain ⟨number, fits⟩ := consistent.balanced.exists_succ live has
  rw [clear_values has]
  exact fits.decref_eq_constant_iff lawful

theorem Consistent.clear_allocated_iff (consistent : state.Consistent)
    (lawful : jansson.Lawful) (live : this ∈ state.live) (oLive : o ∈ state.live)
    (has : state.json o = some value) :
    (state.clear jansson this).values value ≠ none ↔
      (this = o → ∀ value, state.json this = some value →
        state.values value ≠ some (.counted 1)) := by
  by_cases same : this = o
  · subst same
    obtain ⟨number, fits⟩ := consistent.balanced.exists_succ live has
    rw [clear_values has, Ne, fits.decref_eq_none_iff lawful]
    constructor
    · rintro several - _ found
      cases has.symm.trans found
      exact several
    · intro several
      exact several rfl value has
  · apply iff_of_true
    · have kept : (state.clear jansson this).json o = some value :=
        (clear_json_of_ne (Ne.symm same)).trans has
      exact (consistent.clear lawful live).balanced.allocated (mem_live_clear oLive) kept
    · exact fun equal => absurd equal same

theorem Consistent.copyAssign_iff (consistent : state.Consistent) (lawful : jansson.Lawful)
    (live : this ∈ state.live) (oLive : o ∈ state.live) :
    (state.copyAssign jansson this o).Consistent ↔ state.Careful (.copyAssign this o) := by
  have cleared := consistent.clear lawful live
  have stays : this ∈ (state.clear jansson this).live := mem_live_clear live
  cases has : state.json o with
  | none =>
      rw [copyAssign_of_none has, cleared.setJson_iff stays clear_json,
        consistent.clear_idle_iff lawful live]
      constructor
      · intro idle
        constructor
        · exact fun _ => idle
        · rintro rfl value found
          cases has.symm.trans found
      · exact fun careful => careful.1 has
  | some value =>
      rw [copyAssign_of_some has, cleared.acquire_iff lawful stays clear_json,
        consistent.clear_allocated_iff lawful live oLive has]
      constructor
      · intro several
        refine ⟨fun empty => ?_, several⟩
        cases has.symm.trans empty
      · exact fun careful => careful.2

theorem Consistent.moveAssign (consistent : state.Consistent) (live : this ∈ state.live)
    (oLive : o ∈ state.live) : (state.moveAssign this o).Consistent :=
  ⟨consistent.sound, consistent.balanced.swap live oLive⟩

/-! ## Constructors and the destructor -/

/-- A new handle is responsible for the reference that it is given. -/
theorem Consistent.receive (consistent : state.Consistent) (lawful : jansson.Lawful)
    (absent : this ∉ state.live) {reference : JsonReference}
    (available : state.Available reference) :
    ((state.receive jansson reference).2.enter this
      (state.receive jansson reference).1).Consistent := by
  have entered := consistent.enter absent
  cases reference with
  | null => exact entered
  | new value =>
      have created := entered.balanced.create mem_live_enter json_enter available
      unfold JsonHandles.receive
      rw [enter_some]
      exact ⟨entered.sound, created⟩
  | another value =>
      unfold JsonHandles.receive
      rw [enter_some]
      exact (entered.acquire_iff lawful mem_live_enter json_enter).mpr available

theorem Consistent.fromText (consistent : state.Consistent) (lawful : jansson.Lawful)
    (absent : this ∉ state.live) {loaded : JsonReference} (loadable : state.Loadable loaded) :
    (state.fromText jansson this loaded).Consistent := by
  cases loaded with
  | null => exact consistent
  | new value =>
      have available : state.Available (.new value) := loadable
      exact consistent.receive lawful absent available
  | another value =>
      have available : state.Available (.another value) := by
        intro missing
        cases missing.symm.trans loadable
      exact consistent.receive lawful absent available

theorem Consistent.copyConstruct (consistent : state.Consistent) (lawful : jansson.Lawful)
    (absent : this ∉ state.live) (oLive : o ∈ state.live) :
    (state.copyConstruct jansson this o).Consistent := by
  have entered := consistent.enter absent
  apply (entered.copyAssign_iff lawful mem_live_enter (mem_live_enter_of_mem oLive)).mpr
  constructor
  · intro _ value found
    cases json_enter.symm.trans found
  · intro same
    exact absurd same (ne_of_mem_of_not_mem oLive absent).symm

/-- Moving into a handle that is not initialised hands its pointer to the other handle. -/
theorem Consistent.moveConstruct_iff (consistent : state.Consistent)
    (absent : this ∉ state.live) (oLive : o ∈ state.live) :
    (state.moveConstruct this o pointer).Consistent ↔ state.Idle pointer := by
  have different : o ≠ this := ne_of_mem_of_not_mem oLive absent
  have entered := consistent.enter absent
  have stays : o ∈ (state.enter this none).live := mem_live_enter_of_mem oLive
  have moved := entered.moveAssign mem_live_enter stays
  have empty : ((state.enter this none).moveAssign this o).json o = none := by
    simp [JsonHandles.moveAssign, setJson, JsonHandles.enter, different]
  have same : state.moveConstruct this o pointer =
      ((state.enter this none).moveAssign this o).setJson o pointer := by
    simp [moveConstruct, JsonHandles.moveAssign, setJson, JsonHandles.enter, different,
      Function.update_comm different.symm]
  rw [same]
  exact moved.setJson_iff stays empty

theorem Consistent.destroy (consistent : state.Consistent) (lawful : jansson.Lawful)
    (live : this ∈ state.live) : (state.destroy jansson this).Consistent := by
  have cleared := consistent.clear lawful live
  have gone := cleared.balanced.leave (mem_live_clear live) clear_json
  have absent : this ∉ state.live.erase this := Finset.notMem_erase this state.live
  unfold JsonHandles.destroy
  unfold JsonHandles.clear at cleared gone
  cases has : state.json this with
  | none =>
      rw [has] at cleared gone
      exact ⟨cleared.sound, gone⟩
  | some own =>
      rw [has] at cleared gone
      exact ⟨cleared.sound, (Balanced.update_iff absent none).mp gone⟩

/-! ## Runs -/

theorem perform_consistent_iff {operation : Operation} (consistent : state.Consistent)
    (lawful : jansson.Lawful) (possible : state.Possible operation) :
    (state.perform jansson operation).Consistent ↔ state.Careful operation := by
  cases operation with
  | fromText this loaded =>
      exact iff_of_true (consistent.fromText lawful possible.1 possible.2) trivial
  | fromJsonT this t =>
      exact iff_of_true (consistent.receive lawful possible.1 possible.2) trivial
  | construct this => exact iff_of_true (consistent.enter possible) trivial
  | copyConstruct this o =>
      exact iff_of_true (consistent.copyConstruct lawful possible.1 possible.2) trivial
  | moveConstruct this o uninitialised =>
      exact consistent.moveConstruct_iff possible.1 possible.2
  | destroy this => exact iff_of_true (consistent.destroy lawful possible) trivial
  | copyAssign this o => exact consistent.copyAssign_iff lawful possible.1 possible.2
  | moveAssign this o => exact iff_of_true (consistent.moveAssign possible.1 possible.2) trivial

variable (jansson) in
theorem Consistent.of_initial (initial : (system jansson).initial state) : state.Consistent := by
  obtain ⟨nobody, sound, constants⟩ := initial
  refine ⟨sound, fun value => ?_⟩
  rw [nobody]
  cases found : state.values value with
  | none => rfl
  | some refcount =>
      rw [constants value refcount found]
      trivial

/-- As long as every operation is careful, the counts are those of the handles; and the first
one that is not breaks this. -/
theorem handles_consistent (lawful : jansson.Lawful)
    (reached : ((system jansson).guard Careful).Reachable state) :
    state.Consistent ∧ ∀ operation after, (system jansson).step state operation after →
      (after.Consistent ↔ state.Careful operation) := by
  have consistent : state.Consistent := by
    apply reached.invariant
    · exact Consistent.of_initial jansson
    · rintro before operation _ consistent ⟨careful, possible, rfl⟩
      exact (perform_consistent_iff consistent lawful possible).mpr careful
  refine ⟨consistent, ?_⟩
  rintro operation _ ⟨possible, rfl⟩
  exact perform_consistent_iff consistent lawful possible

/-! ## Programs with one or two handles -/

/-- What jansson documents about its counts. -/
def documented : Counting where
  incref
    | .constant => .constant
    | .counted count => .counted (count + 1)
  decref
    | .constant => some .constant
    | .counted 0 => none
    | .counted 1 => none
    | .counted (count + 2) => some (.counted (count + 1))

theorem documented_lawful : documented.Lawful where
  incref_constant := rfl
  decref_constant := rfl
  incref_counted _ _ := rfl
  decref_counted
    | 0, positive => absurd positive (Nat.lt_irrefl 0)
    | _ + 1, _ => rfl
  decref_last := rfl

/-- The program has a handle with a new value. -/
def oneHandle : JsonHandles :=
  fromJsonT documented 0 { values := fun _ => none } (.new 0)

theorem oneHandle_reachable (allowed : JsonHandles → Operation → Prop)
    (always : ∀ state, allowed state (.fromJsonT 0 (.new 0))) :
    ((system documented).guard allowed).Reachable oneHandle := by
  have start : ((system documented).guard allowed).Reachable { values := fun _ => none } :=
    .start ⟨rfl, rfl, nofun⟩
  exact start.snoc (.fromJsonT 0 (.new 0)) ⟨always _, ⟨Finset.notMem_empty 0, rfl⟩, rfl⟩

/-- The value has two handles, so that one of them can be assigned itself. -/
theorem handles_consistent_shared :
    let shared := oneHandle.copyConstruct documented 1 0
    shared.Consistent ∧ shared.values 0 = some (.counted 2) ∧
      (shared.copyAssign documented 1 1).Consistent := by
  intro shared
  have possible : oneHandle.Possible (.copyConstruct 1 0) := by
    constructor <;> decide
  have reached := (oneHandle_reachable Careful fun _ => trivial).snoc (.copyConstruct 1 0)
    ⟨trivial, possible, rfl⟩
  obtain ⟨consistent, exactly⟩ := handles_consistent documented_lawful reached
  have both : shared.Possible (.copyAssign 1 1) := by
    constructor <;> decide
  refine ⟨consistent, rfl, (exactly (.copyAssign 1 1) _ ⟨both, rfl⟩).mpr ⟨nofun, ?_⟩⟩
  rintro - _ ⟨⟩
  decide

/-- A handle is assigned an empty one, the only handle of a value is assigned itself, and a
handle is moved from into memory with something in it. -/
theorem handles_inconsistent :
    let emptied := (oneHandle.construct 1).copyAssign documented 0 1
    let itself := oneHandle.copyAssign documented 0 0
    let moved := oneHandle.moveConstruct 1 0 (some 1)
    ((system documented).Reachable emptied ∧ ¬emptied.Consistent) ∧
      ((system documented).Reachable itself ∧ ¬itself.Consistent) ∧
      (system documented).Reachable moved ∧ ¬moved.Consistent := by
  intro emptied itself moved
  have reached := (oneHandle_reachable (fun _ _ => True) fun _ => trivial).of_guard
  refine ⟨⟨?_, ?_⟩, ⟨?_, ?_⟩, ?_, ?_⟩
  · have absent : 1 ∉ oneHandle.live := by decide
    have constructed := reached.snoc (.construct 1) ⟨absent, rfl⟩
    exact constructed.snoc (.copyAssign 0 1) ⟨⟨by decide, by decide⟩, rfl⟩
  · exact fun consistent => absurd (consistent.balanced 0) (by decide)
  · exact reached.snoc (.copyAssign 0 0) ⟨⟨by decide, by decide⟩, rfl⟩
  · exact fun consistent => absurd consistent.sound (by decide)
  · exact reached.snoc (.moveConstruct 1 0 (some 1)) ⟨⟨by decide, by decide⟩, rfl⟩
  · exact fun consistent => absurd (consistent.balanced 1) (by decide)

end JsonHandles

end DaZeus
