import SubswapProvider.Library.JsonPatch
import SubswapProvider.Library.Effect

/-!
# The store of the plugin

`json_db.py` and `cln_storage.py`. The process works on live dictionaries, `StoredDict`s of
`StoredDict`s; each change of one, and each assignment to an attribute of an object that is or was in
one, queues a patch. The datastore has one text: the document as it was when it was last written as a
whole, with the patches behind it that have been appended since. A new process reads the text and has
to come to the same dictionaries.

Only swaps are objects whose attributes are assigned to. The other values, hold invoices among them,
count as what their `to_json` was when they were set. Texts are cut where the values in them begin and
end: `json` reads a value as it has written it.
-/

namespace SubswapProvider.JsonDb

open JsonPatch

variable {α : Type}

/-! ## The text in the datastore -/

/-- What a text of the datastore is made of: values of `json.dumps`, set apart by `",\n"`. -/
inductive Piece (α : Type)
  | document (t : DocTree α)
  | patch (p : Patch α)
  | separator

abbrev Content (α : Type) := List (Piece α)

/-- `json.dumps`, of which only the lengths of its texts matter here. -/
structure Printer (α : Type) where
  len : Piece α → Nat
  len_pos : ∀ p, 0 < len p

def Printer.length (printer : Printer α) (s : Content α) : Nat := (s.map printer.len).sum

/-- `''.join([',\n' + x for x in pending_changes])`. -/
def joinPatches (patches : List (Patch α)) : Content α :=
  patches.flatMap fun p => [.separator, .patch p]

/-- The values of a list behind its first one. -/
def readPatches : Content α → Option (List (Patch α))
  | [] => some []
  | .separator :: .patch p :: rest => (readPatches rest).map (p :: ·)
  | _ => none

/-- `load_data`. A text that does not begin with a value is no list of values, and neither of the
ways to read an old or a cut text makes anything of it. -/
def loadData : Content α → Option (DocTree α)
  | [] => some (.node [])
  | .document (.node tables) :: rest => (readPatches rest).bind (applyAll (.node tables))
  | _ => none

/-! ## Live data -/

/-- A value in a dictionary: a `StoredObject`, or anything else as its JSON. -/
inductive Entry (α : Type)
  | value (t : DocTree α)
  | object (ref : Nat)
  deriving DecidableEq

/-- An object with its attributes; `path` is `None` until `set_db` has been called. -/
structure StoredObject (α : Type) where
  fields : Dict Str (DocTree α)
  path : Option (Str × Str)

/-- `CLNStorage`. -/
structure Storage (α : Type) where
  content : Content α
  pos : Nat
  initPos : Nat

/-- `JsonDB`, with the objects that are in its dictionaries or are not. -/
structure State (α : Type) where
  data : Dict Str (Dict Str (Entry α))
  heap : Nat → StoredObject α
  nextRef : Nat
  pendingChanges : List (Patch α)
  modified : Bool
  storage : Storage α

/-- `to_json` of an object. -/
def StoredObject.json (obj : StoredObject α) : DocTree α := .node (members id obj.fields)

def Entry.json (heap : Nat → StoredObject α) : Entry α → DocTree α
  | .value t => t
  | .object ref => (heap ref).json

/-- A table as `json.dumps` writes it. -/
def tableJson (heap : Nat → StoredObject α) (entries : Dict Str (Entry α)) : DocTree α :=
  .node (members (Entry.json heap) entries)

/-- `self.data` as JSON. -/
def State.doc (s : State α) : DocTree α := .node (members (tableJson s.heap) s.data)

/-- `add_patch`. -/
def State.addPatch (p : Patch α) (s : State α) : State α :=
  { s with pendingChanges := s.pendingChanges ++ [p], modified := true }

/-- `get_dict`. -/
def State.getDict (name : Str) (s : State α) : State α :=
  if s.data.contains name then s
  else { s with data := s.data.set name ∅ }.addPatch (.add (pointer [name]) (.node []))

/-- `set_db` of an object that is put under a path. -/
def setDb (path : Str × Str) (v : Entry α) (heap : Nat → StoredObject α) : Nat → StoredObject α :=
  match v with
  | .value _ => heap
  | .object ref => Function.update heap ref { heap ref with path := some path }

section

variable [DecidableEq α]

/-- `StoredDict.__setitem__` of the dictionary `name`; there is none before `get_dict`. -/
def State.setItem (name key : Str) (v : Entry α) (s : State α) : State α :=
  match s.data.get? name with
  | none => s
  | some entries =>
    let json := v.json s.heap
    let s' := { s with
      data := s.data.set name (entries.set key v)
      heap := setDb (name, key) v s.heap }
    match entries.get? key with
    | none => s'.addPatch (.add (pointer [name, key]) json)
    | some old =>
      if json = old.json s.heap then s
      else s'.addPatch (.replace (pointer [name, key]) json)

/-- `StoredDict.pop`. -/
def State.pop (name key : Str) (s : State α) : State α :=
  match s.data.get? name with
  | none => s
  | some entries =>
    if entries.contains key then
      { s with data := s.data.set name (entries.pop key) }.addPatch (.remove (pointer [name, key]))
    else s

/-- `StoredObject.__setattr__`, of an attribute the object has. -/
def State.setAttr (ref : Nat) (field : Str) (value : DocTree α) (s : State α) : State α :=
  let obj := s.heap ref
  match obj.fields.get? field with
  | none => s
  | some old =>
    if value = old then s
    else
      let s' := { s with
        heap := Function.update s.heap ref { obj with fields := obj.fields.set field value } }
      match obj.path with
      | none => s'
      | some (name, key) => s'.addPatch (.replace (pointer [name, key, field]) value)

end

/-- An object is made. -/
def State.construct (fields : Dict Str (DocTree α)) (s : State α) : State α :=
  { s with
    heap := Function.update s.heap s.nextRef { fields := fields, path := none }
    nextRef := s.nextRef + 1 }

/-! ## Writing -/

/-- `CLNStorage.needs_consolidation`. -/
def Storage.needsConsolidation (storage : Storage α) : Bool := 2 * storage.initPos < storage.pos

/-- `CLNStorage.write` of a call that goes through. -/
def Storage.write (printer : Printer α) (data : Content α) : Storage α where
  content := data
  pos := printer.length data
  initPos := printer.length data

/-- `CLNStorage.append` of a call that goes through. -/
def Storage.append (printer : Printer α) (data : Content α) (storage : Storage α) : Storage α where
  content := storage.content ++ data
  pos := storage.pos + printer.length data
  initPos := storage.initPos

/-- `JsonDB.write`; `answers` says whether the call of the datastore goes through, and one that does not
raises and leaves everything as it is. -/
def State.write (printer : Printer α) (human_readable answers : Bool) (s : State α) : State α :=
  if s.storage.needsConsolidation || human_readable then
    if s.modified && answers then
      { s with
        storage := .write printer [.document s.doc]
        pendingChanges := []
        modified := false }
    else s
  else
    if !s.pendingChanges.isEmpty && answers then
      { s with
        storage := s.storage.append printer (joinPatches s.pendingChanges)
        pendingChanges := [] }
    else s

/-! ## A new process -/

def SWAPS : Str := "submarine_swaps".toList

/-- `dict` of some items, of which none has the key of another. -/
def ofItems {β : Type} (l : List (Str × β)) : Dict Str β :=
  l.foldl (fun d p => d.set p.1 p.2) ∅

/-- The members of a tree that is an object. -/
def membersOf : DocTree α → List (Str × DocTree α)
  | .leaf _ => []
  | .node ms => ms

/-- The document is an object of objects, and the swaps in it are objects. -/
def wellFormed (t : DocTree α) : Bool :=
  match t with
  | .leaf _ => false
  | .node tables => tables.all fun table => match table.2 with
    | .leaf _ => false
    | .node entries => table.1 ≠ SWAPS || entries.all fun entry => match entry.2 with
      | .leaf _ => false
      | .node _ => true

/-- The `n`-th swap of the document. -/
def swapAt (t : DocTree α) (n : Nat) : Option (Str × DocTree α) :=
  ((member? SWAPS (membersOf t)).bind fun swaps => (membersOf swaps)[n]?)

/-- A table as `StoredDict` takes it in: the swaps become objects. -/
def readTable (name : Str) (table : DocTree α) : Dict Str (Entry α) :=
  if name = SWAPS then ofItems ((membersOf table).zipIdx.map fun p => (p.1.1, .object p.2))
  else ofItems ((membersOf table).map fun p => (p.1, .value p.2))

/-- The live data of a new process, made from the document it has loaded. -/
def State.ofDocument (printer : Printer α) (content : Content α) (t : DocTree α) : State α where
  data := ofItems ((membersOf t).map fun table => (table.1, readTable table.1 table.2))
  heap n :=
    match swapAt t n with
    | some (key, swap) => { fields := ofItems (membersOf swap), path := some (SWAPS, key) }
    | none => { fields := ∅, path := none }
  nextRef :=
    match member? SWAPS (membersOf t) with
    | some swaps => (membersOf swaps).length
    | none => 0
  pendingChanges := []
  modified := 1 < content.length
  storage := { content, pos := printer.length content, initPos := printer.length content }

/-- `CLNStorage` and `JsonDB` of a new process, which ends at once when they raise. -/
def State.open (printer : Printer α) (content : Content α) : Option (State α) :=
  match loadData content with
  | none => none
  | some t => if wellFormed t then some (.ofDocument printer content t) else none

/-! ## Runs -/

/-- What the process does with its store. -/
inductive Action (α : Type)
  | getDict (name : Str)
  | setItem (name key : Str) (v : Entry α)
  | pop (name key : Str)
  | setAttr (ref : Nat) (field : Str) (value : DocTree α)
  | construct (fields : Dict Str (DocTree α))
  | write (answers : Bool)
  /-- The process ends and a new one starts. -/
  | restart

/-- The store with what an observer remembers: the document as of the last write. -/
structure Observed (α : Type) where
  state : State α
  written : DocTree α

variable [DecidableEq α] (printer : Printer α) (human_readable : Bool)

def step (a : Action α) (s : State α) : State α :=
  match a with
  | .getDict name => s.getDict name
  | .setItem name key v => s.setItem name key v
  | .pop name key => s.pop name key
  | .setAttr ref field value => s.setAttr ref field value
  | .construct fields => s.construct fields
  | .write answers => s.write printer human_readable answers
  | .restart => (State.open printer s.storage.content).getD s

def observe (a : Action α) (o : Observed α) : Observed α :=
  let s := step printer human_readable a o.state
  match a with
  | .write true => { state := s, written := s.doc }
  | _ => { state := s, written := o.written }

end SubswapProvider.JsonDb
