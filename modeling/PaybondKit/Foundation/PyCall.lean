import PaybondKit.Foundation.OrderedDict

/-!
# Calling Python functions

A signature lists parameters of five kinds. A call passes values by position and by
keyword; `Signature.Binds` says when Python binds them to the parameters, and `passed`
which parameter receives which value. A parameter left to its default is not passed.
-/

namespace PaybondKit

inductive ParameterKind where
  | positionalOnly
  | positionalOrKeyword
  | varPositional
  | keywordOnly
  | varKeyword
  deriving DecidableEq, Repr

structure Parameter where
  name : String
  kind : ParameterKind := .positionalOrKeyword
  hasDefault : Bool := false
  deriving DecidableEq, Repr

namespace Parameter

variable (parameter : Parameter)

/-- Neither `*args` nor `**kwargs`. -/
def isNamed : Bool := parameter.kind ≠ .varPositional && parameter.kind ≠ .varKeyword

def takesPosition : Bool :=
  parameter.kind = .positionalOnly || parameter.kind = .positionalOrKeyword

def takesKeyword : Bool :=
  parameter.kind = .positionalOrKeyword || parameter.kind = .keywordOnly

end Parameter

/-- `inspect.Signature`. -/
structure Signature where
  parameters : List Parameter
  nodup : (parameters.map (·.name)).Nodup

/-- The values of a call. -/
@[ext] structure Call (V : Type) where
  args : List V
  kwargs : OrderedDict String V := .empty

/-- The names of a pairing are names that were paired. -/
theorem map_fst_zip_sublist {α β : Type} (names : List α) (values : List β) :
    ((names.zip values).map Prod.fst).Sublist names := by
  induction names generalizing values with
  | nil => exact List.Sublist.slnil
  | cons name names ih =>
      cases values with
      | nil => exact List.nil_sublist _
      | cons value values => exact (ih values).cons_cons name

namespace Signature

variable {V : Type} (signature : Signature) (call : Call V)

def names : List String := signature.parameters.map (·.name)

/-- The parameters without `*args` and `**kwargs`. -/
def named : List Parameter := signature.parameters.filter (·.isNamed)

def positional : List Parameter := signature.parameters.filter (·.takesPosition)

def positionalNames : List String := signature.positional.map (·.name)

/-- The parameters that receive the values passed by position. -/
def passedByPosition : List (String × V) := signature.positionalNames.zip call.args

/-- The parameters that are passed, with their values. -/
def passed : List (String × V) := signature.passedByPosition call ++ call.kwargs.items

/-- Python binds the call to the parameters, of which none is `*args` or `**kwargs`. -/
structure Binds : Prop where
  named : ∀ parameter ∈ signature.parameters, parameter.isNamed = true
  positions : call.args.length ≤ signature.positional.length
  keywords : ∀ key ∈ call.kwargs.keys, ∃ parameter ∈ signature.parameters,
    parameter.takesKeyword = true ∧ parameter.name = key
  once : ∀ key ∈ call.kwargs.keys, key ∉ (signature.passedByPosition call).map Prod.fst
  complete : ∀ parameter ∈ signature.parameters, parameter.hasDefault = false →
    parameter.name ∈ (signature.passed call).map Prod.fst

instance : Decidable (signature.Binds call) :=
  decidable_of_iff
    ((∀ parameter ∈ signature.parameters, parameter.isNamed = true) ∧
      call.args.length ≤ signature.positional.length ∧
      (∀ key ∈ call.kwargs.keys, ∃ parameter ∈ signature.parameters,
        parameter.takesKeyword = true ∧ parameter.name = key) ∧
      (∀ key ∈ call.kwargs.keys, key ∉ (signature.passedByPosition call).map Prod.fst) ∧
      ∀ parameter ∈ signature.parameters, parameter.hasDefault = false →
        parameter.name ∈ (signature.passed call).map Prod.fst)
    ⟨fun h => ⟨h.1, h.2.1, h.2.2.1, h.2.2.2.1, h.2.2.2.2⟩,
      fun h => ⟨h.named, h.positions, h.keywords, h.once, h.complete⟩⟩

variable {signature call}

theorem mem_args_of_mem_passedByPosition {item : String × V}
    (hitem : item ∈ signature.passedByPosition call) : item.2 ∈ call.args :=
  (List.of_mem_zip hitem).2

/-- Every parameter has a name of its own. -/
theorem named_eq (hnamed : ∀ parameter ∈ signature.parameters, parameter.isNamed = true) :
    signature.named = signature.parameters :=
  List.filter_eq_self.mpr hnamed

/-- When the positions fill the signature, every parameter takes a position. -/
theorem Binds.positional_eq (hbinds : signature.Binds call)
    (hfill : signature.parameters.length = call.args.length) :
    signature.positional = signature.parameters := by
  have hsublist : signature.positional.Sublist signature.parameters := List.filter_sublist
  refine hsublist.eq_of_length_le ?_
  rw [hfill]
  exact hbinds.positions

theorem nodup_positionalNames : signature.positionalNames.Nodup :=
  signature.nodup.sublist (List.filter_sublist.map _)

/-- What is passed by position is not passed by keyword. -/
theorem Binds.not_mem_keys (hbinds : signature.Binds call) {item : String × V}
    (hitem : item ∈ signature.passedByPosition call) : item.1 ∉ call.kwargs.keys := by
  intro hkey
  exact hbinds.once item.1 hkey (List.mem_map_of_mem hitem)

end Signature

end PaybondKit
