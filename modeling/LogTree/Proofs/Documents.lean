import LogTree.Config.Decode
import LogTree.Config.Encode
import Mathlib.Data.List.Basic
import Mathlib.Data.List.Perm.Basic

/-!
Documents as a notation gives them back: the entries of a table may stand in another order, `Data.Same`,
and a float that the notation has no number for is null, `Data.stored`. A reader answers on all these
documents alike, `Data.Reads`, if the readers of their parts do.
-/
namespace LogTree

namespace Dict
variable {α : Type}

theorem perm_insertEntry {key : String} (value : α) {es : List (String × α)}
    (fresh : key ∉ es.map Prod.fst) : (insertEntry key value es).Perm ((key, value) :: es) := by
  induction es with
  | nil => exact .refl _
  | cons e rest ih =>
    obtain ⟨k, v⟩ := e
    obtain ⟨other, later⟩ := not_or.mp (mt List.mem_cons.mpr fresh)
    simp only [insertEntry]
    split
    · exact .refl _
    · exact ((ih later).cons (k, v)).trans (.swap _ _ _)

theorem perm_foldl_insert (es : List (String × α)) (d : Dict α)
    (distinct : ((d.entries ++ es).map Prod.fst).Nodup) :
    (es.foldl (fun d e => d.insert e.1 e.2) d).entries.Perm (d.entries ++ es) := by
  induction es generalizing d with
  | nil => simp
  | cons e rest ih =>
    have apart : e.1 ∉ d.entries.map Prod.fst := by
      rw [List.map_append, List.nodup_append] at distinct
      exact fun here => distinct.2.2 _ here _ List.mem_cons_self rfl
    have moved : ((d.insert e.1 e.2).entries ++ rest).Perm (d.entries ++ e :: rest) :=
      ((perm_insertEntry e.2 apart).append_right rest).trans List.perm_middle.symm
    exact (ih _ ((moved.map Prod.fst).nodup_iff.mpr distinct)).trans moved

theorem eq_of_perm {d e : Dict α} (perm : d.entries.Perm e.entries) : d = e := by
  have same : d.entries = e.entries := by
    refine perm.eq_of_pairwise (fun a b _ _ less greater => ?_) d.sorted e.sorted
    exact absurd (String.lt_trans less greater) (String.lt_irrefl _)
  obtain ⟨es, _⟩ := d
  obtain ⟨fs, _⟩ := e
  obtain rfl : es = fs := same
  rfl

theorem nodup_keys (d : Dict α) : (d.entries.map Prod.fst).Nodup := by
  rw [List.nodup_iff_pairwise_ne, List.pairwise_map]
  refine d.sorted.imp ?_
  intro a b less same
  exact String.lt_irrefl _ (same ▸ less)

/-- The order in which distinct entries come does not matter. -/
theorem ofList_of_perm {d : Dict α} {es : List (String × α)} (perm : es.Perm d.entries) :
    ofList es = d := by
  have distinct : (es.map Prod.fst).Nodup := (perm.map Prod.fst).nodup_iff.mpr d.nodup_keys
  exact eq_of_perm ((perm_foldl_insert es empty distinct).trans perm)

end Dict

def picks {α : Type} : List α → List (α × List α)
  | [] => []
  | x :: rest => (x, rest) :: (picks rest).map fun p => (p.1, x :: p.2)

theorem mem_picks {α : Type} {x : α} {xs others : List α} :
    (x, others) ∈ picks xs ↔ ∃ pre post, xs = pre ++ x :: post ∧ others = pre ++ post := by
  induction xs generalizing others with
  | nil => simp [picks]
  | cons y xs ih =>
    rw [picks, List.mem_cons, List.mem_map]
    constructor
    · rintro (here | ⟨⟨z, zs⟩, there, same⟩)
      · obtain ⟨rfl, rfl⟩ := Prod.mk.inj here
        exact ⟨[], others, rfl, rfl⟩
      · obtain ⟨rfl, rfl⟩ := Prod.mk.inj same
        obtain ⟨pre, post, rfl, rfl⟩ := ih.mp there
        exact ⟨y :: pre, post, rfl, rfl⟩
    · rintro ⟨pre, post, split, rfl⟩
      cases pre with
      | nil =>
        obtain ⟨rfl, rfl⟩ := List.cons.inj split
        exact .inl rfl
      | cons z pre =>
        obtain ⟨rfl, rfl⟩ := List.cons.inj split
        exact .inr ⟨(x, pre ++ post), ih.mpr ⟨pre, post, rfl, rfl⟩, rfl⟩

namespace Data

def isFlat : Data → Bool
  | .array _ => false
  | .table _ => false
  | _ => true

def sameFlat : Data → Data → Bool
  | .null, .null => true
  | .bool a, .bool b => a == b
  | .int m, .int n => m == n
  | .float x, .float y => decide (x = y)
  | .string s, .string t => s == t
  | .unreadable, .unreadable => true
  | _, _ => false

mutual

def same : Data → Data → Bool
  | .array ds, .array es => sameItems ds es
  | .table es, .table fs => sameEntries es fs
  | d, e => sameFlat d e

def sameItems : List Data → List Data → Bool
  | [], [] => true
  | d :: ds, e :: es => same d e && sameItems ds es
  | _, _ => false

def sameEntries : List (String × Data) → List (String × Data) → Bool
  | [], fs => fs.isEmpty
  | (key, d) :: rest, fs =>
    (picks fs).any fun p => p.1.1 == key && same d p.1.2 && sameEntries rest p.2

end

/-- The same document, but for the order in which the entries of its tables stand. -/
def Same (d e : Data) : Prop := same d e = true

instance (d e : Data) : Decidable (d.Same e) := inferInstanceAs (Decidable (same d e = true))

theorem same_flat {d e : Data} (flat : d.isFlat = true) : d.Same e ↔ e = d := by
  refine Iff.trans ?_ eq_comm
  cases d <;> cases e <;> simp_all [Same, same, sameFlat, isFlat]

theorem same_array {ds : List Data} {e : Data} :
    (Data.array ds).Same e ↔ ∃ es, e = .array es ∧ sameItems ds es = true := by
  cases e <;> simp [Same, same, sameFlat]

theorem same_table {es : List (String × Data)} {e : Data} :
    (Data.table es).Same e ↔ ∃ fs, e = .table fs ∧ sameEntries es fs = true := by
  cases e <;> simp [Same, same, sameFlat]

theorem sameItems_nil {es : List Data} : sameItems [] es = true ↔ es = [] := by
  cases es <;> simp [sameItems]

theorem sameItems_cons {d : Data} {ds es : List Data} :
    sameItems (d :: ds) es = true ↔
      ∃ e rest, es = e :: rest ∧ d.Same e ∧ sameItems ds rest = true := by
  cases es <;> simp [sameItems, Same]

theorem sameEntries_nil {fs : List (String × Data)} : sameEntries [] fs = true ↔ fs = [] := by
  simp [sameEntries]

/-- Every entry stands somewhere among the others, and none of them is left over. -/
theorem sameEntries_cons {key : String} {d : Data} {es fs : List (String × Data)} :
    sameEntries ((key, d) :: es) fs = true ↔
      ∃ pre e post, fs = pre ++ (key, e) :: post ∧ d.Same e ∧
        sameEntries es (pre ++ post) = true := by
  simp only [sameEntries, List.any_eq_true, Bool.and_eq_true, beq_iff_eq]
  constructor
  · rintro ⟨⟨⟨_, e⟩, others⟩, picked, ⟨rfl, here⟩, later⟩
    obtain ⟨pre, post, rfl, rfl⟩ := mem_picks.mp picked
    exact ⟨pre, e, post, rfl, here, later⟩
  · rintro ⟨pre, e, post, rfl, here, later⟩
    exact ⟨((key, e), pre ++ post), mem_picks.mpr ⟨pre, post, rfl, rfl⟩, ⟨rfl, here⟩, later⟩

theorem sameEntries_single {key : String} {d : Data} {fs : List (String × Data)} :
    sameEntries [(key, d)] fs = true ↔ ∃ e, fs = [(key, e)] ∧ d.Same e := by
  simp only [sameEntries_cons, sameEntries_nil, List.append_eq_nil_iff]
  constructor
  · rintro ⟨_, e, _, rfl, same, rfl, rfl⟩
    exact ⟨e, rfl, same⟩
  · rintro ⟨e, rfl, same⟩
    exact ⟨[], e, [], rfl, same, rfl, rfl⟩

theorem sameEntries_filter {es fs : List (String × Data)} (same : sameEntries es fs = true)
    (p : String → Bool) :
    sameEntries (es.filter fun x => p x.1) (fs.filter fun x => p x.1) = true := by
  induction es generalizing fs with
  | nil =>
    rw [sameEntries_nil.mp same]
    rfl
  | cons x es ih =>
    obtain ⟨key, d⟩ := x
    obtain ⟨pre, e, post, rfl, first, others⟩ := sameEntries_cons.mp same
    have rest := ih others
    rw [List.filter_append] at rest ⊢
    rw [List.filter_cons, List.filter_cons]
    cases p key with
    | false => exact rest
    | true => exact sameEntries_cons.mpr ⟨_, e, _, rfl, first, rest⟩

@[elab_as_elim]
theorem induction {motive : Data → Prop} (flat : ∀ d : Data, d.isFlat = true → motive d)
    (array : ∀ ds, (∀ d ∈ ds, motive d) → motive (.array ds))
    (table : ∀ es : List (String × Data), (∀ e ∈ es, motive e.2) → motive (.table es)) (d : Data) :
    motive d := by
  refine @Data.rec motive (fun ds => ∀ d ∈ ds, motive d) (fun es => ∀ e ∈ es, motive e.2)
    (fun e => motive e.2) (flat _ rfl) (fun _ => flat _ rfl) (fun _ => flat _ rfl)
    (fun _ => flat _ rfl) (fun _ => flat _ rfl) array table (flat _ rfl) ?_ ?_ ?_ ?_ ?_ d
  · exact fun _ h => absurd h List.not_mem_nil
  · exact fun _ _ first others => List.forall_mem_cons.mpr ⟨first, others⟩
  · exact fun _ h => absurd h List.not_mem_nil
  · exact fun _ _ first others => List.forall_mem_cons.mpr ⟨first, others⟩
  · exact fun _ _ value => value

section
variable {α : Type} {f : Data → α}

/-- What does not depend on the order inside the items does not depend on it at all. -/
theorem map_eq_of_sameItems {ds es : List Data} (same : sameItems ds es = true)
    (each : ∀ d ∈ ds, ∀ e, d.Same e → f e = f d) : es.map f = ds.map f := by
  induction ds generalizing es with
  | nil => rw [sameItems_nil.mp same]
  | cons d ds ih =>
    obtain ⟨first, others⟩ := List.forall_mem_cons.mp each
    obtain ⟨e, rest, rfl, here, later⟩ := sameItems_cons.mp same
    rw [List.map_cons, List.map_cons, first e here, ih later others]

theorem map_perm_of_sameEntries {es fs : List (String × Data)} (same : sameEntries es fs = true)
    (each : ∀ x ∈ es, ∀ e, x.2.Same e → f e = f x.2) :
    (fs.map fun x => (x.1, f x.2)).Perm (es.map fun x => (x.1, f x.2)) := by
  induction es generalizing fs with
  | nil => rw [sameEntries_nil.mp same]
  | cons x es ih =>
    obtain ⟨key, d⟩ := x
    obtain ⟨first, others⟩ := List.forall_mem_cons.mp each
    obtain ⟨pre, e, post, rfl, here, later⟩ := sameEntries_cons.mp same
    have rest := ih later others
    rw [List.map_append] at rest ⊢
    rw [List.map_cons, List.map_cons, first e here]
    exact List.perm_middle.trans (rest.cons _)

end

theorem Same.refl (d : Data) : d.Same d := by
  induction d using induction with
  | flat d flat => exact (same_flat flat).mpr rfl
  | array ds ih =>
    refine same_array.mpr ⟨ds, rfl, ?_⟩
    induction ds with
    | nil => rfl
    | cons d ds each =>
      obtain ⟨first, others⟩ := List.forall_mem_cons.mp ih
      exact sameItems_cons.mpr ⟨d, ds, rfl, first, each others⟩
  | table es ih =>
    refine same_table.mpr ⟨es, rfl, ?_⟩
    induction es with
    | nil => rfl
    | cons e es each =>
      obtain ⟨first, others⟩ := List.forall_mem_cons.mp ih
      exact sameEntries_cons.mpr ⟨[], e.2, es, rfl, first, each others⟩

theorem areReadable_eq_all (ds : List Data) : areReadable ds = (ds.map isReadable).all id := by
  induction ds with
  | nil => simp [areReadable]
  | cons d ds ih => simp [areReadable, ih]

theorem entriesReadable_eq_all (es : List (String × Data)) :
    entriesReadable es = (es.map fun x => (x.1, x.2.isReadable)).all Prod.snd := by
  induction es with
  | nil => simp [entriesReadable]
  | cons e es ih => simp [entriesReadable, ih]

theorem Same.isReadable {d e : Data} (same : d.Same e) : e.isReadable = d.isReadable := by
  induction d using induction generalizing e with
  | flat d flat => rw [(same_flat flat).mp same]
  | array ds ih =>
    obtain ⟨es, rfl, items⟩ := same_array.mp same
    rw [Data.isReadable, Data.isReadable, areReadable_eq_all, areReadable_eq_all,
      Data.map_eq_of_sameItems items fun d hd _ => ih d hd]
  | table es ih =>
    obtain ⟨fs, rfl, entries⟩ := same_table.mp same
    rw [Data.isReadable, Data.isReadable, entriesReadable_eq_all, entriesReadable_eq_all,
      (map_perm_of_sameEntries entries fun x hx _ => ih x hx).all_eq]

end Data

namespace Config

theorem depthOfItems_eq_foldr (ds : List Data) : depthOfItems ds = (ds.map depth).foldr max 0 := by
  induction ds with
  | nil => simp [depthOfItems]
  | cons d ds ih => simp [depthOfItems, ih]

theorem depthOfEntries_eq_foldr (es : List (String × Data)) :
    depthOfEntries es = (es.map fun x => (x.1, depth x.2)).foldr (fun x n => max x.2 n) 0 := by
  induction es with
  | nil => simp [depthOfEntries]
  | cons e es ih => simp [depthOfEntries, ih]

theorem depth_same {d e : Data} (same : d.Same e) : depth e = depth d := by
  induction d using Data.induction generalizing e with
  | flat d flat => rw [(Data.same_flat flat).mp same]
  | array ds ih =>
    obtain ⟨es, rfl, items⟩ := Data.same_array.mp same
    rw [depth, depth, depthOfItems_eq_foldr, depthOfItems_eq_foldr,
      Data.map_eq_of_sameItems items fun d hd _ => ih d hd]
  | table es ih =>
    obtain ⟨fs, rfl, entries⟩ := Data.same_table.mp same
    rw [depth, depth, depthOfEntries_eq_foldr, depthOfEntries_eq_foldr]
    have swap : LeftCommutative fun (x : String × Nat) n => max x.2 n := ⟨fun _ _ _ => by omega⟩
    exact congrArg (· + 1) ((Data.map_perm_of_sameEntries entries fun x hx _ => ih x hx).foldr_eq 0)

end Config

namespace Data

section
variable (keeps : Float → Bool)

mutual

/-- What is left of a document in a notation that has numbers for some floats only. -/
def stored : Data → Data
  | .float x => if keeps x then .float x else .null
  | .array ds => .array (storedItems ds)
  | .table es => .table (storedEntries es)
  | d => d

def storedItems : List Data → List Data
  | [] => []
  | d :: rest => stored d :: storedItems rest

def storedEntries : List (String × Data) → List (String × Data)
  | [] => []
  | (key, d) :: rest => (key, stored d) :: storedEntries rest

end

theorem storedItems_eq_map (ds : List Data) : storedItems keeps ds = ds.map (stored keeps) := by
  induction ds with
  | nil => simp [storedItems]
  | cons d ds ih => simp [storedItems, ih]

theorem storedEntries_eq_map (es : List (String × Data)) :
    storedEntries keeps es = es.map fun e => (e.1, e.2.stored keeps) := by
  induction es with
  | nil => simp [storedEntries]
  | cons e es ih => simp [storedEntries, ih]

end

/-- Whatever the order in its tables, the document is read as `x` where `good` holds, and refused where
it does not. -/
def Reads {α : Type} (read : Data → Option α) (d : Data) (x : α) (good : Bool) : Prop :=
  ∀ e, d.Same e → read e = if good then some x else none

theorem Reads.self {α : Type} {read : Data → Option α} {d : Data} {x : α} {good : Bool}
    (reads : Reads read d x good) : read d = if good then some x else none := reads d (.refl d)

end Data

namespace Config
open Data
variable {α β : Type}

theorem reads_flat {read : Data → Option α} {d : Data} {x : α} {good : Bool}
    (flat : d.isFlat = true) (answer : read d = if good then some x else none) :
    Reads read d x good := by
  intro e same
  rw [(same_flat flat).mp same, answer]

theorem mapM_ite (f : β → α) (good : β → Bool) (xs : List β) :
    (xs.mapM fun x => if good x then some (f x) else none) =
      if xs.all good then some (xs.map f) else none := by
  induction xs with
  | nil => rfl
  | cons x xs ih =>
    rw [List.mapM_cons, ih, List.all_cons]
    cases good x <;> cases xs.all good <;> rfl

theorem reads_listOf {read : Data → Option α} {doc : α → Data} {good : α → Bool} {xs : List α}
    (each : ∀ x ∈ xs, Reads read (doc x) x (good x)) :
    Reads (listOf read) (.array (xs.map doc)) xs (xs.all good) := by
  intro e same
  obtain ⟨es, rfl, items⟩ := same_array.mp same
  have answers : es.map read = xs.map fun x => if good x then some x else none := by
    rw [map_eq_of_sameItems (f := read) items, List.map_map]
    · exact List.map_congr_left fun x hx => (each x hx).self
    · intro d hd e same
      obtain ⟨x, hx, rfl⟩ := List.mem_map.mp hd
      rw [each x hx e same, (each x hx).self]
  have mapM_id : es.mapM read = (es.map read).mapM id := by rw [List.mapM_map]; rfl
  rw [listOf, mapM_id, answers, List.mapM_map]
  simpa using mapM_ite id good xs

theorem mapM_perm {f : α → Option β} {xs ys : List α} {vs : List β} (perm : xs.Perm ys)
    (all : xs.mapM f = some vs) : ∃ us, ys.mapM f = some us ∧ us.Perm vs := by
  induction perm generalizing vs with
  | nil => exact ⟨vs, all, .refl _⟩
  | cons x _ ih =>
    simp only [List.mapM_cons, Option.bind_eq_bind, Option.bind_eq_some_iff, Option.pure_def,
      Option.some.injEq] at all
    obtain ⟨v, here, rest, others, rfl⟩ := all
    obtain ⟨us, again, perm⟩ := ih others
    exact ⟨v :: us, by simp [List.mapM_cons, here, again], perm.cons v⟩
  | swap x y l =>
    simp only [List.mapM_cons, Option.bind_eq_bind, Option.bind_eq_some_iff, Option.pure_def,
      Option.some.injEq] at all
    obtain ⟨v, first, _, ⟨u, second, rest, others, rfl⟩, rfl⟩ := all
    exact ⟨u :: v :: rest, by simp [List.mapM_cons, first, second, others], .swap _ _ _⟩
  | trans _ _ first second =>
    obtain ⟨us, between, perm⟩ := first all
    obtain ⟨ws, last, perm'⟩ := second between
    exact ⟨ws, last, perm'.trans perm⟩

theorem reads_dictOf {read : Data → Option α} {d : Dict α} (doc : α → Data) (good : α → Bool)
    (each : ∀ x ∈ d.entries, Reads read (doc x.2) x.2 (good x.2)) :
    Reads (dictOf read) (.table (d.entries.map fun x => (x.1, doc x.2))) d
      (d.entries.all fun x => good x.2) := by
  intro e same
  obtain ⟨fs, rfl, entries⟩ := same_table.mp same
  let keyed : String × Option α → Option (String × α) := fun x => x.2.map (x.1, ·)
  have perm : (fs.map fun x => (x.1, read x.2)).Perm
      (d.entries.map fun x => (x.1, if good x.2 then some x.2 else none)) := by
    have moved := map_perm_of_sameEntries (f := read) entries ?_
    · rw [List.map_map] at moved
      refine moved.trans (.of_eq (List.map_congr_left fun x hx => ?_))
      simp only [Function.comp_apply, (each x hx).self]
    · intro x hx e same
      obtain ⟨y, hy, rfl⟩ := List.mem_map.mp hx
      rw [each y hy e same, (each y hy).self]
  have written : (d.entries.map fun x => (x.1, if good x.2 then some x.2 else none)).mapM keyed =
      if d.entries.all fun x => good x.2 then some d.entries else none := by
    have kept : ∀ x : String × α, keyed (x.1, if good x.2 then some x.2 else none) =
        if good x.2 then some (id x) else none := by
      intro x
      cases h : good x.2 <;> simp [keyed]
    rw [List.mapM_map]
    simpa [Function.comp_def, kept] using mapM_ite id (fun x : String × α => good x.2) d.entries
  have read_as : fs.mapM (fun e => (read e.2).map (e.1, ·)) =
      (fs.map fun x => (x.1, read x.2)).mapM keyed := by
    rw [List.mapM_map]
    rfl
  rw [dictOf, read_as]
  split at written
  · rename_i all
    obtain ⟨us, again, order⟩ := mapM_perm perm.symm written
    rw [again, Option.map_some, Dict.ofList_of_perm order, if_pos all]
  · rename_i some_bad
    rw [if_neg some_bad]
    cases again : (fs.map fun x => (x.1, read x.2)).mapM keyed with
    | none => rfl
    | some us =>
      obtain ⟨_, all, _⟩ := mapM_perm perm again
      rw [written] at all
      contradiction

theorem fieldsOf_same {surplus : Bool} {names : List String} {es : List (String × Data)} {e : Data}
    {ds : List Data} (same : (Data.table es).Same e)
    (fields : fieldsOf surplus names (.table es) = some (ds.map some)) :
    ∃ fs, fieldsOf surplus names e = some (fs.map some) ∧ List.Forall₂ Same ds fs := by
  obtain ⟨fs, rfl, entries⟩ := same_table.mp same
  simp only [fieldsOf] at fields ⊢
  induction names generalizing ds with
  | nil =>
    obtain rfl : ds = [] := by simpa using fields.symm
    exact ⟨[], rfl, .nil⟩
  | cons name names ih =>
    simp only [List.mapM_cons, Option.bind_eq_bind, Option.bind_eq_some_iff, Option.pure_def,
      Option.some.injEq] at fields
    obtain ⟨x, here, xs, others, all⟩ := fields
    obtain ⟨d, ds, rfl, rfl, rfl⟩ := List.map_eq_cons_iff.mp all.symm
    obtain ⟨rest, again, forall₂⟩ := ih others
    have picked := sameEntries_filter entries (· == name)
    split at here
    · cases here
    · rename_i key _ found
      obtain rfl := Option.some.inj (Option.some.inj here)
      rw [found] at picked
      obtain ⟨f, given, same⟩ := sameEntries_single.mp picked
      refine ⟨f :: rest, ?_, .cons same forall₂⟩
      rw [List.mapM_cons, given]
      exact Option.bind_eq_some_iff.mpr ⟨some f, rfl,
        Option.bind_eq_some_iff.mpr ⟨rest.map some, again, rfl⟩⟩
    · contradiction

theorem splitKind_same {tag : String} {es : List (String × Data)} {e kind rest : Data}
    (same : (Data.table es).Same e) (split : splitKind tag (.table es) = some (kind, rest)) :
    ∃ kind' rest', splitKind tag e = some (kind', rest') ∧ kind.Same kind' ∧ rest.Same rest' := by
  obtain ⟨fs, rfl, entries⟩ := same_table.mp same
  have picked := sameEntries_filter entries (· == tag)
  have others := sameEntries_filter entries (· != tag)
  simp only [splitKind] at split ⊢
  split at split
  · rename_i key d found
    obtain ⟨rfl, rfl⟩ := Prod.mk.inj (Option.some.inj split)
    rw [found] at picked
    obtain ⟨e, given, same⟩ := sameEntries_single.mp picked
    rw [given]
    exact ⟨e, _, rfl, same, same_table.mpr ⟨_, rfl, others⟩⟩
  · contradiction

end Config
end LogTree
