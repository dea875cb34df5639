import SubswapProvider.Library.Dict

/-!
# Documents and patches

A document is a tree of objects whose members have names. A patch changes one member: it names the
object by a pointer, the names on the way to it one after another, and is refused where the way does
not exist, or where there is nothing to replace or remove (RFC 6902). Pointers are texts (RFC 6901):
the names are set apart by slashes, and a name that has a slash or a tilde in it would have to be
escaped.

An object whose members stand for the items of a dictionary is changed as the dictionary is
(`setMember_members`, `popMember_members`), and where a value changes without the dictionary, as that
value is set (`setMember_change`).
-/

namespace SubswapProvider.JsonPatch

abbrev Str := List Char

/-- A document: a value that has no parts, or an object with named members in their order. -/
inductive DocTree (α : Type)
  | leaf (a : α)
  | node (members : List (Str × DocTree α))

namespace DocTree

variable {α : Type} [DecidableEq α]

mutual

/-- Two documents are equal. -/
def same : DocTree α → DocTree α → Bool
  | .leaf a, .leaf b => a = b
  | .node l, .node m => sameMembers l m
  | _, _ => false

def sameMembers : List (Str × DocTree α) → List (Str × DocTree α) → Bool
  | [], [] => true
  | (k, t) :: l, (k', u) :: m => decide (k = k') && same t u && sameMembers l m
  | _, _ => false

end

mutual

theorem same_iff : ∀ t u : DocTree α, same t u = true ↔ t = u
  | .leaf a, .leaf b => by simp [same]
  | .node l, .node m => by
    unfold same
    rw [sameMembers_iff l m, DocTree.node.injEq]
  | .leaf _, .node _ => by simp [same]
  | .node _, .leaf _ => by simp [same]

theorem sameMembers_iff : ∀ l m : List (Str × DocTree α), sameMembers l m = true ↔ l = m
  | [], [] => by simp [sameMembers]
  | (k, t) :: l, (k', u) :: m => by
    unfold sameMembers
    rw [Bool.and_eq_true, Bool.and_eq_true, same_iff t u, sameMembers_iff l m, decide_eq_true_eq,
      List.cons.injEq, Prod.mk.injEq]
  | [], _ :: _ => by simp [sameMembers]
  | _ :: _, [] => by simp [sameMembers]

end

instance : DecidableEq (DocTree α) := fun t u => decidable_of_iff (same t u = true) (same_iff t u)

end DocTree

/-! ## Members -/

section Members

variable {β : Type}

/-- The value of the member `k`. -/
def member? (k : Str) (l : List (Str × β)) : Option β :=
  @List.lookup Str β instBEqOfDecidableEq k l

/-- Give the member `k` a new value: an existing one keeps its place, a new one goes to the end. -/
def setMember (k : Str) (v : β) (l : List (Str × β)) : List (Str × β) :=
  if k ∈ l.map Prod.fst then l.map fun p => if p.1 = k then (k, v) else p else l ++ [(k, v)]

def popMember (k : Str) (l : List (Str × β)) : List (Str × β) := l.filter fun p => p.1 ≠ k

end Members

/-! ## Pointers -/

/-- The text that points to a member: a slash in front of each name. -/
def pointer (path : List Str) : Str := path.flatMap fun name => '/' :: name

/-- `~1` stands for a slash and `~0` for a tilde; no other use of a tilde is a pointer. -/
def unescape : Str → Option Str
  | [] => some []
  | '~' :: '1' :: t => (unescape t).map ('/' :: ·)
  | '~' :: '0' :: t => (unescape t).map ('~' :: ·)
  | c :: t => if c = '~' then none else (unescape t).map (c :: ·)

/-- Read a pointer. -/
def readPointer : Str → Option (List Str)
  | [] => some []
  | c :: t => if c = '/' then (t.splitOn '/').mapM unescape else none

/-- A name that stands for itself in a pointer. -/
def Plain (name : Str) : Prop := ∀ c ∈ name, c ≠ '/' ∧ c ≠ '~'

instance (name : Str) : Decidable (Plain name) :=
  decidable_of_iff (name.all fun c => c ≠ '/' && c ≠ '~') (by simp [Plain])

theorem unescape_plain {name : Str} (h : Plain name) : unescape name = some name := by
  induction name with
  | nil => rfl
  | cons c t ih =>
    have ht : Plain t := fun d hd => h d (List.mem_cons_of_mem c hd)
    have hc : c ≠ '~' := (h c List.mem_cons_self).2
    unfold unescape
    split
    · next heq => cases heq
    · next heq =>
      cases heq
      exact absurd rfl hc
    · next heq =>
      cases heq
      exact absurd rfl hc
    · next heq =>
      cases heq
      rw [if_neg hc, ih ht]
      rfl

theorem pointer_cons (first : Str) (rest : List Str) :
    pointer (first :: rest) = '/' :: ['/'].intercalate (first :: rest) := by
  induction rest generalizing first with
  | nil => simp [pointer]
  | cons second rest ih =>
    have hnext := ih second
    unfold pointer at hnext ⊢
    rw [List.flatMap_cons, hnext, List.intercalate_cons_cons]
    simp

/-- **A pointer to plain names is read as it was written.** -/
theorem readPointer_pointer {path : List Str} (h : ∀ name ∈ path, Plain name) :
    readPointer (pointer path) = some path := by
  have hnames : ∀ names : List Str, (∀ name ∈ names, Plain name) →
      names.mapM unescape = some names := by
    intro names hplain
    induction names with
    | nil => rfl
    | cons name names ih =>
      have hrest := ih fun n hn => hplain n (List.mem_cons_of_mem name hn)
      simp [unescape_plain (hplain name List.mem_cons_self), hrest]
  cases path with
  | nil => rfl
  | cons first rest =>
    have hsplit : (['/'].intercalate (first :: rest)).splitOn '/' = first :: rest := by
      apply List.splitOn_intercalate
      · intro name hname hmem
        exact (h name hname '/' hmem).1 rfl
      · simp
    rw [pointer_cons, readPointer, if_pos rfl, hsplit]
    exact hnames _ h

/-! ## Patches -/

/-- An operation of a patch, with the pointer as it is written. -/
inductive Patch (α : Type)
  | add (path : Str) (value : DocTree α)
  | replace (path : Str) (value : DocTree α)
  | remove (path : Str)

variable {α : Type}

/-- Change the members of the object at the end of a way. -/
def descend (f : List (Str × DocTree α) → Option (List (Str × DocTree α))) :
    List Str → DocTree α → Option (DocTree α)
  | [], .node members => (f members).map .node
  | k :: path, .node members =>
    match member? k members with
    | none => none
    | some t => (descend f path t).map fun t' => .node (setMember k t' members)
  | _, .leaf _ => none

/-- Change the member a pointer leads to; the whole document is no member. -/
def atMember (path : Str) (f : Str → List (Str × DocTree α) → Option (List (Str × DocTree α)))
    (doc : DocTree α) : Option (DocTree α) :=
  match readPointer path with
  | none => none
  | some names =>
    match names.getLast? with
    | none => none
    | some k => descend (f k) names.dropLast doc

def apply (doc : DocTree α) : Patch α → Option (DocTree α)
  | .add path value => atMember path (fun k members => some (setMember k value members)) doc
  | .replace path value => atMember path (fun k members =>
      if k ∈ members.map Prod.fst then some (setMember k value members) else none) doc
  | .remove path => atMember path (fun k members =>
      if k ∈ members.map Prod.fst then some (popMember k members) else none) doc

/-- Apply patches one after another. -/
def applyAll (doc : DocTree α) (patches : List (Patch α)) : Option (DocTree α) := patches.foldlM apply doc

theorem applyAll_append (doc : DocTree α) (p q : List (Patch α)) :
    applyAll doc (p ++ q) = (applyAll doc p).bind fun doc' => applyAll doc' q := by
  unfold applyAll
  rw [List.foldlM_append]
  rfl

theorem applyAll_concat (doc : DocTree α) (p : List (Patch α)) (q : Patch α) :
    applyAll doc (p ++ [q]) = (applyAll doc p).bind fun doc' => apply doc' q := by
  rw [applyAll_append]
  congr 1
  funext doc'
  simp [applyAll]

theorem atMember_pointer {f : Str → List (Str × DocTree α) → Option (List (Str × DocTree α))}
    {path : List Str} {k : Str} {doc : DocTree α} (h : ∀ name ∈ path ++ [k], Plain name) :
    atMember (pointer (path ++ [k])) f doc = descend (f k) path doc := by
  unfold atMember
  rw [readPointer_pointer h]
  simp

/-! ## Members of a dictionary -/

section Dictionaries

variable {β : Type}

/-- The members of an object that stands for a dictionary. -/
def members (json : β → DocTree α) (d : Dict Str β) : List (Str × DocTree α) :=
  d.items.map fun p => (p.1, json p.2)

variable (json : β → DocTree α) (d : Dict Str β) (k : Str)

theorem mem_members_iff : k ∈ (members json d).map Prod.fst ↔ d.contains k = true := by
  have hkeys : (members json d).map Prod.fst = d.keys := by
    unfold members Dict.keys
    rw [List.map_map]
    rfl
  rw [hkeys]
  exact Dict.mem_keys_iff

theorem member?_members : member? k (members json d) = (d.get? k).map json :=
  Dict.get?_mapVals json d k

/-- Setting a member is setting the key. -/
theorem setMember_members (v : β) :
    setMember k (json v) (members json d) = members json (d.set k v) := by
  unfold setMember Dict.set
  by_cases h : k ∈ d.keys
  · rw [if_pos ((mem_members_iff json d k).mpr (Dict.mem_keys_iff.mp h)), dif_pos h]
    unfold members Dict.overwrite
    rw [List.map_map, List.map_map]
    apply List.map_congr_left
    intro p _
    by_cases hp : p.1 = k
    · simp [hp]
    · simp [hp]
  · rw [if_neg (fun hmem => h (Dict.mem_keys_iff.mpr ((mem_members_iff json d k).mp hmem))),
      dif_neg h]
    simp [members]

variable {json d k}

/-- What one of the values has become is what setting its member makes of the object. -/
theorem setMember_change {json' : β → DocTree α} {b : β} (hk : d.get? k = some b)
    (hother : ∀ k' b', d.get? k' = some b' → k' ≠ k → json' b' = json b') :
    setMember k (json' b) (members json d) = members json' d := by
  have hmem : k ∈ (members json d).map Prod.fst :=
    (mem_members_iff json d k).mpr (Dict.contains_iff.mpr ⟨b, hk⟩)
  unfold setMember
  rw [if_pos hmem]
  unfold members
  rw [List.map_map]
  apply List.map_congr_left
  intro p hp
  have hget := Dict.get?_of_mem hp
  by_cases hpk : p.1 = k
  · rw [hpk, hk] at hget
    cases hget
    simp [hpk]
  · simp [hpk, hother p.1 p.2 hget hpk]

variable (json d k)

theorem popMember_members : popMember k (members json d) = members json (d.pop k) := by
  unfold popMember members Dict.pop
  rw [List.filter_map]
  rfl

end Dictionaries

end SubswapProvider.JsonPatch
