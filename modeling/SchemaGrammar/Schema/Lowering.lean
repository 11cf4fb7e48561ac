import SchemaGrammar.Schema.Basic
import SchemaGrammar.Schema.Error

/-!
# Lowerings

Lowering a document takes steps that a log may show, and ends with a value or with the first error.
A `Lowering` holds both, so the steps of a lowering that failed are those taken before it failed.
-/

namespace SchemaGrammar

/-- A step of a lowering that a log may show. -/
inductive Step where
  /-- A node was lowered to a schema of the given kind. -/
  | lowered (kind : Kind)
  /-- A property refers to another definition, which stays unresolved. -/
  | unresolved (property target : String)
deriving DecidableEq

/-- The steps taken and the outcome. -/
structure Lowering (α : Type) where
  steps : List Step
  result : Except CompileError α

namespace Lowering

variable {α β : Type}

/-- A value, without any step. -/
def pure (a : α) : Lowering α := ⟨[], .ok a⟩

/-- An error, without any step. -/
def fail (e : CompileError) : Lowering α := ⟨[], .error e⟩

/-- Continues with the value, if there is one; the steps add up. -/
def bind (x : Lowering α) (f : α → Lowering β) : Lowering β :=
  match x.result with
  | .ok a => ⟨x.steps ++ (f a).steps, (f a).result⟩
  | .error e => ⟨x.steps, .error e⟩

/-- Takes one step. -/
def step (s : Step) : Lowering Unit := ⟨[s], .ok ()⟩

/-- Names the property in which an error arose. -/
def inProperty (name : String) (x : Lowering α) : Lowering α :=
  ⟨x.steps, x.result.mapError (.inProperty name)⟩

/-- Adds the step that a node was lowered. -/
def completed (x : Lowering Schema) : Lowering Schema :=
  x.bind fun schema => (step (.lowered schema.kind)).bind fun _ => pure schema

@[simp] theorem pure_bind (a : α) (f : α → Lowering β) : (pure a).bind f = f a := by
  simp [pure, bind]

@[simp] theorem fail_bind (e : CompileError) (f : α → Lowering β) : (fail e).bind f = fail e := by
  simp [fail, bind]

end Lowering

end SchemaGrammar
