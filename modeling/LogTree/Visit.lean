import LogTree.Value

/-!
Depth-first visits of nested attributes, each with its dotted path. A group is visited before its
children, unless its key is empty: then its children stand in its place. `walk` stops at the first
visit that its visitor refuses; `visits` is the full list.
-/
namespace LogTree

structure Visit where
  path : String
  value : Value

/-- An empty prefix or key adds no dot. -/
def joinPath (under : String) (key : Key) : String :=
  if under == "" then key else if key == "" then under else under ++ "." ++ key

def visitsUnder (under : String) : List Attr → List Visit
  | [] => []
  | .mk key value :: rest =>
    let path := joinPath under key
    let here := match value with
      | .group inner => (if key == "" then [] else [⟨path, value⟩]) ++ visitsUnder path inner
      | _ => [⟨path, value⟩]
    here ++ visitsUnder under rest

def visits (attrs : List Attr) : List Visit := visitsUnder "" attrs

def leafVisits (attrs : List Attr) : List Visit := (visits attrs).filter (!·.value.isGroup)

/-- A visitor changes its state and says whether to go on. -/
abbrev Visitor (σ : Type) := Visit → σ → Bool × σ

def walkUnder {σ : Type} (visit : Visitor σ) (under : String) : List Attr → σ → Bool × σ
  | [], s => (true, s)
  | .mk key value :: rest, s =>
    let path := joinPath under key
    let here := match value with
      | .group inner =>
        if key == "" then walkUnder visit path inner s
        else match visit ⟨path, value⟩ s with
          | (false, t) => (false, t)
          | (true, t) => walkUnder visit path inner t
      | _ => visit ⟨path, value⟩ s
    match here with
    | (false, t) => (false, t)
    | (true, t) => walkUnder visit under rest t

def walk {σ : Type} (visit : Visitor σ) (attrs : List Attr) (s : σ) : Bool × σ :=
  walkUnder visit "" attrs s

end LogTree
