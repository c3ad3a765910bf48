import LogTree.Data

/-!
Tables of a TOML document while it is read. A table is defined by a header, passed through by the
header of another table, or opened by a dotted key; where each may be extended follows from that.
-/
namespace LogTree.Toml

/-- A dotted key: the tables it runs through, and the name in the last of them. -/
structure KeyPath where
  tables : List String
  last : String
  deriving DecidableEq, Repr

inductive Origin where
  | defined
  | passed
  | dotted
  deriving DecidableEq, Repr

/-- A value under a name: closed, a table, or an array of tables of which the last is open. -/
inductive Branch where
  | closed (value : Data)
  | table (origin : Origin) (entries : List (String × Branch))
  | tables (finished : List Data) (current : List (String × Branch))

abbrev Branches := List (String × Branch)

namespace Branches

def get? (key : String) (bs : Branches) : Option Branch := (bs.find? (·.1 == key)).map Prod.snd

/-- In the place of the entry of that name, or at the end. -/
def put (key : String) (b : Branch) : Branches → Branches
  | [] => [(key, b)]
  | e :: rest => if e.1 == key then (key, b) :: rest else e :: put key b rest

/-- Changes the table at the end of a path; tables that are missing are made with origin `made`. -/
def modify (made : Origin) (change : Origin → Branches → Option Branches) :
    List String → Origin → Branches → Option Branches
  | [], origin, bs => change origin bs
  | key :: path, _, bs => do
    match get? key bs with
    | none => return put key (.table made (← modify made change path made [])) bs
    | some (.table origin inner) =>
      if made == .dotted && origin == .defined then none
      else return put key (.table origin (← modify made change path origin inner)) bs
    | some (.tables finished current) =>
      return put key (.tables finished (← modify made change path .defined current)) bs
    | some (.closed _) => none

end Branches

mutual

def Branch.data : Branch → Data
  | .closed d => d
  | .table _ entries => .table (dataOfEntries entries)
  | .tables finished current => .array (finished ++ [.table (dataOfEntries current)])

def dataOfEntries : List (String × Branch) → List (String × Data)
  | [] => []
  | (key, b) :: rest => (key, b.data) :: dataOfEntries rest

end

namespace Branches

/-- A name is given once, and a dotted key extends only tables that a dotted key opened. -/
def addEntry (key : KeyPath) (value : Data) (bs : Branches) : Option Branches :=
  let isDotted := !key.tables.isEmpty
  modify .dotted (fun origin inner =>
    if (origin == .dotted) != isDotted || (get? key.last inner).isSome then none
    else some (put key.last (.closed value) inner)) key.tables .defined bs

/-- A table is defined once; it may have been passed through before. -/
def addTable (key : KeyPath) (bs : Branches) : Option Branches :=
  modify .passed (fun _ inner =>
    match get? key.last inner with
    | none => some (put key.last (.table .defined []) inner)
    | some (.table .passed entries) => some (put key.last (.table .defined entries) inner)
    | _ => none) key.tables .defined bs

def addElement (key : KeyPath) (bs : Branches) : Option Branches :=
  modify .passed (fun _ inner =>
    match get? key.last inner with
    | none => some (put key.last (.tables [] []) inner)
    | some (.tables finished current) =>
      some (put key.last (.tables (finished ++ [.table (dataOfEntries current)]) []) inner)
    | _ => none) key.tables .defined bs

def addEntryAt (here : List String) (key : KeyPath) (value : Data) (bs : Branches) :
    Option Branches :=
  modify .passed (fun _ inner => addEntry key value inner) here .defined bs

def data (bs : Branches) : Data := .table (dataOfEntries bs)

end Branches

/-- The entries of a table that stands between braces. -/
def tableOf? (entries : List (KeyPath × Data)) : Option Data :=
  (entries.foldlM (fun bs (key, d) => Branches.addEntry key d bs) ([] : Branches)).map Branches.data

inductive Statement where
  | table (key : KeyPath)
  | element (key : KeyPath)
  | entry (key : KeyPath) (value : Data)

/-- A document as it grows: its tables, and the path of the one that entries go to. -/
structure Draft where
  root : Branches
  here : List String

def Draft.add? (d : Draft) : Statement → Option Draft
  | .table key => do return ⟨← Branches.addTable key d.root, key.tables ++ [key.last]⟩
  | .element key => do return ⟨← Branches.addElement key d.root, key.tables ++ [key.last]⟩
  | .entry key value => do return { d with root := ← Branches.addEntryAt d.here key value d.root }

def ofStatements? (ss : List Statement) : Option Data :=
  (ss.foldlM Draft.add? ⟨[], []⟩).map fun d => d.root.data

end LogTree.Toml
