import LogTree.Sink

/-! Routers are put together route by route and then made into a sink. -/
namespace LogTree

structure Router (σ : Type) where
  routes : List (Guard σ × Sink σ)
  first : Bool

namespace Router
variable {σ : Type}

def new : Router σ := ⟨[], false⟩

/-- The sink gets the records for which every predicate holds. -/
def add (r : Router σ) (s : Sink σ) (ps : List (Predicate σ)) : Router σ :=
  { r with routes := r.routes ++ [(.ofPredicates ps, s)] }

def addAll (r : Router σ) (added : List (Sink σ × List (Predicate σ))) : Router σ :=
  added.foldl (fun r x => r.add x.1 x.2) r

/-- Delivers to the first route that matches and to no other. -/
def firstMatch (r : Router σ) : Router σ := { r with first := true }

def size (r : Router σ) : Nat := r.routes.length

def isEmpty (r : Router σ) : Bool := r.routes.isEmpty

def build (r : Router σ) : Sink σ := Sink.router r.first r.routes

/-- The mode may be chosen before or after the routes are added. -/
theorem add_firstMatch (r : Router σ) (s : Sink σ) (ps : List (Predicate σ)) :
    r.firstMatch.add s ps = (r.add s ps).firstMatch := rfl

theorem routes_addAll (added : List (Sink σ × List (Predicate σ))) (r : Router σ) :
    (r.addAll added).routes = r.routes ++ added.map fun x => (.ofPredicates x.2, x.1) := by
  induction added generalizing r with
  | nil => simp [addAll]
  | cons x rest ih =>
    have next : r.addAll (x :: rest) = (r.add x.1 x.2).addAll rest := rfl
    rw [next, ih]
    simp [add]

theorem size_addAll (added : List (Sink σ × List (Predicate σ))) (r : Router σ) :
    (r.addAll added).size = r.size + added.length := by
  simp [size, routes_addAll]

theorem isEmpty_addAll (added : List (Sink σ × List (Predicate σ))) (r : Router σ) :
    (r.addAll added).isEmpty = (r.isEmpty && added.isEmpty) := by
  cases added <;> simp [isEmpty, routes_addAll]

end Router
end LogTree
