import SessionControl.Session.Fault
import SessionControl.Trace.Call
import SessionControl.Trace.Notice

/-!
# Traced computations

A computation together with the calls it makes and the notices it gives, in order. The value of
a traced computation never depends on the trace of the computations before it, so the projection
to the value turns a traced program into a plain one.

## Main definitions

- `Traced` — a value with its trace
- `Attempt` — a traced computation that may end in a fault; the trace before the fault is kept
- `Traced.call`, `Traced.note` — the two ways to leave a trace

## Main statements

- `Traced.value_bind`, `Traced.calls_bind`, `Traced.notices_bind` — the projections of a sequence
- `LawfulMonad Traced`
-/

namespace SessionControl

/-- A value, and the trace left on the way to it. -/
structure Traced (α : Type) where
  value : α
  calls : List Call := []
  notices : List Notice := []
  deriving DecidableEq

namespace Traced

variable {α β : Type}

/-- A value without a trace. -/
protected def pure (a : α) : Traced α := { value := a }

/-- One computation after another; the trace of the second follows that of the first. -/
protected def bind (x : Traced α) (f : α → Traced β) : Traced β :=
  let y := f x.value
  { value := y.value, calls := x.calls ++ y.calls, notices := x.notices ++ y.notices }

instance : Monad Traced where
  pure := Traced.pure
  bind := Traced.bind

def call (c : Call) : Traced Unit := { value := (), calls := [c] }

def note (n : Notice) : Traced Unit := { value := (), notices := [n] }

def noteAll (ns : List Notice) : Traced Unit := { value := (), notices := ns }

@[ext]
theorem ext' {x y : Traced α} (hv : x.value = y.value) (hc : x.calls = y.calls)
    (hn : x.notices = y.notices) : x = y := by
  cases x; cases y; simp_all

@[simp] theorem value_pure (a : α) : (pure a : Traced α).value = a := rfl
@[simp] theorem calls_pure (a : α) : (pure a : Traced α).calls = [] := rfl

@[simp]
theorem value_bind (x : Traced α) (f : α → Traced β) :
    (x >>= f).value = (f x.value).value := rfl

@[simp]
theorem calls_bind (x : Traced α) (f : α → Traced β) :
    (x >>= f).calls = x.calls ++ (f x.value).calls := rfl

@[simp]
theorem notices_bind (x : Traced α) (f : α → Traced β) :
    (x >>= f).notices = x.notices ++ (f x.value).notices := rfl

@[simp]
theorem value_map (f : α → β) (x : Traced α) : (f <$> x).value = f x.value := rfl

@[simp]
theorem calls_map (f : α → β) (x : Traced α) : (f <$> x).calls = x.calls :=
  List.append_nil x.calls

@[simp] theorem calls_call (c : Call) : (call c).calls = [c] := rfl
@[simp] theorem calls_note (n : Notice) : (note n).calls = [] := rfl
@[simp] theorem calls_noteAll (ns : List Notice) : (noteAll ns).calls = [] := rfl

instance : LawfulMonad Traced :=
  LawfulMonad.mk' Traced
    (fun _ => Traced.ext' rfl (List.append_nil _) (List.append_nil _))
    (fun _ _ => rfl)
    (fun _ _ _ => Traced.ext' rfl (List.append_assoc ..) (List.append_assoc ..))

end Traced

/-- A traced computation that may end in a fault. -/
abbrev Attempt (α : Type) := ExceptT Fault Traced α

namespace Attempt

variable {α : Type}

/-- Ends in a fault unless the graph operation succeeds. -/
def ofGraph : Except GraphFault α → Attempt α
  | .ok a => pure a
  | .error fault => throw (.graph fault)

/-- The content of an optional value, which has to be there. -/
def require (fault : Fault) : Option α → Attempt α
  | some a => pure a
  | none => throw fault

/-- Goes on only if a condition holds. -/
def ensure (fault : Fault) (condition : Bool) : Attempt Unit :=
  if condition then pure () else throw fault

/-- What the attempt came to, without its trace. -/
def result (x : Attempt α) : Except Fault α := x.run.value

end Attempt

end SessionControl
