import RdfDataset.Term

/-!
# Requests

A request is handed to the executor as a tree: what its root is, which kind of request it is, the
declarations in front of it, and its units in order. The units keep whatever form the reader of the
text gives them (`υ`) until they are needed as an `Operation`.
-/

set_option autoImplicit false

namespace RdfDataset

/-- The root of a request tree. `other "query"` is written like `query` and still differs from it.
-/
inductive RootToken where
  | query
  | other (text : String)
deriving DecidableEq

inductive RequestKind where
  | update
  | query
  | other (text : String)
deriving DecidableEq

def RootToken.render : RootToken → String
  | query => "query"
  | other text => text

def RequestKind.render : RequestKind → String
  | update => "update"
  | query => "query"
  | other text => text

/-- The declarations in front of a request, prefixes in the order of their declaration. -/
structure Prologue where
  base : Option String := none
  prefixes : List (String × String) := []
deriving DecidableEq

/-- One operation of an update. Only insertion of data carries its content, for no other operation
is ever executed. -/
inductive Operation where
  | insertData (quads : List Quad)
  | deleteData
  | modify
  | load
  | clear
  | create
  | drop
deriving DecidableEq

namespace Operation

def kind : Operation → String
  | insertData _ => "insertdata"
  | deleteData => "deletedata"
  | modify => "modify"
  | load => "load"
  | clear => "clear"
  | create => "create"
  | drop => "drop"

end Operation

structure RequestTree (υ : Type) where
  token : RootToken
  kind : RequestKind
  prologue : Prologue
  units : List υ

namespace RequestTree

variable {υ : Type}

def update (prologue : Prologue) (units : List υ) : RequestTree υ :=
  ⟨.query, .update, prologue, units⟩

def query (prologue : Prologue) : RequestTree υ :=
  ⟨.query, .query, prologue, []⟩

/-- Holds for the trees that are executed as updates. It looks at root and kind, not at how they are
written. -/
def isUpdateRequest (tree : RequestTree υ) : Bool :=
  tree.token == .query && tree.kind == .update

end RequestTree

end RdfDataset
