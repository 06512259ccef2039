import Mathlib.Data.List.Sort
import Mathlib.Tactic.Common

/-!
# Ordered tables

`Table κ ν` is an ordered map with one entry for each key, read in key order. The lemmas are the
ones of `Std.ExtTreeMap`, restated over key equality.
-/

abbrev Table (κ ν : Type) [Ord κ] := Std.ExtTreeMap κ ν compare

namespace Table

variable {κ ν : Type} [Ord κ] [Std.TransOrd κ] [Std.LawfulEqOrd κ] [DecidableEq κ]

theorem get_insert (t : Table κ ν) (k a : κ) (v : ν) :
    (t.insert k v)[a]? = if k = a then some v else t[a]? := by
  rw [Std.ExtTreeMap.getElem?_insert]
  simp only [Std.LawfulEqCmp.compare_eq_iff_eq]

theorem get_insert_ne (t : Table κ ν) {k a : κ} (v : ν) (other : k ≠ a) :
    (t.insert k v)[a]? = t[a]? := by
  rw [get_insert, if_neg other]

theorem get_erase (t : Table κ ν) (k a : κ) :
    (t.erase k)[a]? = if k = a then none else t[a]? := by
  rw [Std.ExtTreeMap.getElem?_erase]
  simp only [Std.LawfulEqCmp.compare_eq_iff_eq]

omit [DecidableEq κ] in
@[simp] theorem get_map {μ : Type} (t : Table κ ν) (f : κ → ν → μ) (a : κ) :
    (t.map f)[a]? = t[a]?.map (f a) := Std.ExtTreeMap.getElem?_map

omit [DecidableEq κ] in
theorem mem_entries (t : Table κ ν) {k : κ} {v : ν} :
    (k, v) ∈ t.toList ↔ t[k]? = some v := Std.ExtTreeMap.mem_toList_iff_getElem?_eq_some

omit [DecidableEq κ] in
theorem ext_get {t u : Table κ ν} (same : ∀ a : κ, t[a]? = u[a]?) : t = u :=
  Std.ExtTreeMap.ext_getElem? @same

theorem insert_same {t : Table κ ν} {k : κ} {v : ν} (found : t[k]? = some v) :
    t.insert k v = t := by
  apply ext_get
  intro a
  rw [get_insert]
  split
  · next here => rw [← here, found]
  · rfl

theorem insert_eq_iff {t : Table κ ν} {k : κ} {v : ν} : t.insert k v = t ↔ t[k]? = some v := by
  constructor
  · intro same
    rw [← same, get_insert, if_pos rfl]
  · exact insert_same

/-- The values in key order, read off the entries so that the lemmas on `toList` apply. -/
def values (t : Table κ ν) : List ν := t.toList.map Prod.snd

omit [Std.LawfulEqOrd κ] [DecidableEq κ] in
theorem values_map {μ : Type} (t : Table κ ν) (f : ν → μ) :
    Table.values (t.map fun _ v => f v) = t.values.map f := by
  rw [values, values, Std.ExtTreeMap.toList_map, List.map_map, List.map_map]
  rfl

/-- `std::map::emplace` where an existing key is an error. -/
def insertNew {ε : Type} (key : ν → κ) (duplicate : ε) (t : Table κ ν) (v : ν) :
    Except ε (Table κ ν) :=
  match t[key v]? with
  | some _ => .error duplicate
  | none => .ok (t.insert (key v) v)

/-- `std::map::emplace` where an existing entry stays. -/
def insertIfNew (key : ν → κ) (t : Table κ ν) (v : ν) : Table κ ν :=
  match t[key v]? with
  | some _ => t
  | none => t.insert (key v) v

theorem get_foldl_insertIfNew (key : ν → κ) (vs : List ν) (t : Table κ ν) (k : κ) :
    (vs.foldl (insertIfNew key) t)[k]? = t[k]?.or (vs.find? fun v => key v = k) := by
  induction vs generalizing t with
  | nil => simp
  | cons v vs ih =>
      rw [List.foldl_cons, ih, List.find?_cons]
      unfold insertIfNew
      cases there : t[key v]? with
      | some old =>
          by_cases here : key v = k
          · simp [← here, there]
          · simp [here]
      | none =>
          rw [get_insert]
          by_cases here : key v = k
          · subst here
            simp [there]
          · simp [here]

def KeyedBy (key : ν → κ) (t : Table κ ν) : Prop :=
  ∀ (k : κ) (v : ν), t[k]? = some v → key v = k

omit [DecidableEq κ] in
theorem forall_get {t : Table κ ν} {p : κ → ν → Prop} :
    (∀ (k : κ) (v : ν), t[k]? = some v → p k v) ↔ ∀ e ∈ t.toList, p e.1 e.2 := by
  simp only [Prod.forall, mem_entries]

instance {key : ν → κ} {t : Table κ ν} : Decidable (t.KeyedBy key) :=
  decidable_of_iff _ (forall_get (p := fun k v => key v = k)).symm

omit [DecidableEq κ] in
theorem KeyedBy.map {key : ν → κ} {t : Table κ ν} (keyed : t.KeyedBy key) {f : ν → ν}
    (same : ∀ v, key (f v) = key v) : KeyedBy key (t.map fun _ v => f v) := by
  intro k v found
  rw [get_map] at found
  obtain ⟨v, before, rfl⟩ := Option.map_eq_some_iff.mp found
  exact (same v).trans (keyed k v before)

omit [DecidableEq κ] in
theorem mem_values {t : Table κ ν} {v : ν} : v ∈ t.values ↔ ∃ k : κ, t[k]? = some v := by
  simp only [values, List.mem_map, Prod.exists, mem_entries]
  exact ⟨fun ⟨k, _, found, same⟩ => ⟨k, same ▸ found⟩, fun ⟨k, found⟩ => ⟨k, v, found, rfl⟩⟩

omit [Std.LawfulEqOrd κ] [DecidableEq κ] in
theorem length_values (t : Table κ ν) : t.values.length = t.size := by
  rw [values, List.length_map, Std.ExtTreeMap.length_toList]

section rebuild

variable {key : ν → κ} {l : List (κ × ν)} {t : Table κ ν}

theorem foldlM_insertNew {ε : Type} (duplicate : ε) (keyed : ∀ e ∈ l, key e.2 = e.1)
    (distinct : l.Pairwise fun a b => a.1 ≠ b.1) (fresh : ∀ e ∈ l, t[e.1]? = none) :
    (l.map Prod.snd).foldlM (insertNew key duplicate) t =
      .ok (l.foldl (fun t e => t.insert e.1 e.2) t) := by
  induction l generalizing t with
  | nil => rfl
  | cons e l ih =>
      obtain ⟨other, distinct⟩ := List.pairwise_cons.mp distinct
      have new : insertNew key duplicate t e.2 = .ok (t.insert e.1 e.2) := by
        rw [insertNew, keyed e List.mem_cons_self, fresh e List.mem_cons_self]
      rw [List.map_cons, List.foldlM_cons, new]
      refine ih (fun d member => keyed d (List.mem_cons_of_mem _ member)) distinct ?_
      intro d member
      rw [get_insert_ne _ _ (other d member)]
      exact fresh d (List.mem_cons_of_mem _ member)

theorem foldl_insertIfNew (keyed : ∀ e ∈ l, key e.2 = e.1)
    (distinct : l.Pairwise fun a b => a.1 ≠ b.1) (fresh : ∀ e ∈ l, t[e.1]? = none) :
    (l.map Prod.snd).foldl (insertIfNew key) t = l.foldl (fun t e => t.insert e.1 e.2) t := by
  induction l generalizing t with
  | nil => rfl
  | cons e l ih =>
      obtain ⟨other, distinct⟩ := List.pairwise_cons.mp distinct
      have new : insertIfNew key t e.2 = t.insert e.1 e.2 := by
        rw [insertIfNew, keyed e List.mem_cons_self, fresh e List.mem_cons_self]
      rw [List.map_cons, List.foldl_cons, new]
      refine ih (fun d member => keyed d (List.mem_cons_of_mem _ member)) distinct ?_
      intro d member
      rw [get_insert_ne _ _ (other d member)]
      exact fresh d (List.mem_cons_of_mem _ member)

theorem get_foldl_insert (distinct : l.Pairwise fun a b => a.1 ≠ b.1)
    (fresh : ∀ e ∈ l, t[e.1]? = none) (k : κ) (v : ν) :
    (l.foldl (fun t e => t.insert e.1 e.2) t)[k]? = some v ↔ (k, v) ∈ l ∨ t[k]? = some v := by
  induction l generalizing t with
  | nil => simp
  | cons e l ih =>
      obtain ⟨other, distinct⟩ := List.pairwise_cons.mp distinct
      have later (d) (member : d ∈ l) : (t.insert e.1 e.2)[d.1]? = none := by
        rw [get_insert_ne _ _ (other d member)]
        exact fresh d (List.mem_cons_of_mem _ member)
      rw [List.foldl_cons, ih distinct later, get_insert, List.mem_cons]
      split_ifs with here
      · have absent := fresh e List.mem_cons_self
        rw [← here, absent]
        simp only [Option.some.injEq, reduceCtorEq, or_false]
        rw [or_comm]
        refine or_congr_left ?_
        constructor
        · rintro rfl; rfl
        · intro same; rw [← same]
      · refine ⟨fun found => found.imp_left Or.inr, fun found => found.imp_left fun entry => ?_⟩
        rcases entry with same | member
        · exact absurd (congrArg Prod.fst same).symm here
        · exact member

omit [DecidableEq κ] in
theorem distinct_entries (t : Table κ ν) : t.toList.Pairwise fun a b => a.1 ≠ b.1 :=
  t.ordered_keys_toList.imp fun {a b} before same => by
    rw [same] at before
    exact Std.OrientedCmp.not_lt_of_isLE Std.ReflCmp.isLE_rfl before

theorem foldl_entries (t : Table κ ν) : t.toList.foldl (fun t e => t.insert e.1 e.2) ∅ = t := by
  apply ext_get
  intro k
  ext v
  rw [get_foldl_insert (distinct_entries t) (by simp), mem_entries]
  simp

theorem entries_insert_perm (t : Table κ ν) (k : κ) (v : ν) :
    (t.insert k v).toList.Perm ((k, v) :: t.toList.filter fun e => e.1 ≠ k) := by
  have nodup (u : Table κ ν) : u.toList.Nodup :=
    (distinct_entries u).imp fun differ same => differ (congrArg Prod.fst same)
  have fresh : (k, v) ∉ t.toList.filter fun e => e.1 ≠ k := by simp
  refine (List.perm_ext_iff_of_nodup (nodup _)
    (List.nodup_cons.mpr ⟨fresh, (nodup t).filter _⟩)).mpr fun e => ?_
  obtain ⟨a, w⟩ := e
  rw [mem_entries, get_insert, List.mem_cons, List.mem_filter, mem_entries]
  by_cases here : k = a
  · subst here
    simp [eq_comm]
  · simp [here, Ne.symm here]

theorem countP_insert (t : Table κ ν) (k : κ) (v : ν) (p : κ × ν → Bool) :
    (t.insert k v).toList.countP p =
      (t.toList.countP fun e => p e && e.1 ≠ k) + if p (k, v) then 1 else 0 := by
  rw [(entries_insert_perm t k v).countP_eq, List.countP_cons, List.countP_filter]

theorem countP_insert_le (t : Table κ ν) (k : κ) (v : ν) (p : κ × ν → Bool) :
    (t.insert k v).toList.countP p ≤ t.toList.countP p + if p (k, v) then 1 else 0 := by
  rw [countP_insert]
  exact Nat.add_le_add_right (List.countP_mono_left fun e _ both => (Bool.and_eq_true_iff.mp both).1) _

theorem countP_insert_eq {t : Table κ ν} {k : κ} {v w : ν} {p q : κ × ν → Bool}
    (found : t[k]? = some w) (here : p (k, v) = q (k, w))
    (elsewhere : ∀ e : κ × ν, e.1 ≠ k → p e = q e) :
    (t.insert k v).toList.countP p = t.toList.countP q := by
  have old := countP_insert t k w q
  rw [insert_same found] at old
  rw [countP_insert, here, old]
  refine congrArg (· + _) (List.countP_congr fun e _ => ?_)
  by_cases other : e.1 = k
  · simp [other]
  · simp [elsewhere e other]

theorem countP_insert_same {t : Table κ ν} {k : κ} {v w : ν} {p : κ × ν → Bool}
    (found : t[k]? = some w) (same : p (k, v) = p (k, w)) :
    (t.insert k v).toList.countP p = t.toList.countP p :=
  countP_insert_eq found same fun _ _ => rfl

omit [DecidableEq κ] in
theorem countP_congr {μ : Type} {t u : Table κ ν} {f : ν → μ} (p : μ → Bool)
    (same : ∀ k : κ, t[k]?.map f = u[k]?.map f) :
    (t.toList.countP fun e => p (f e.2)) = u.toList.countP fun e => p (f e.2) := by
  have mapped : t.map (fun _ v => f v) = u.map fun _ v => f v :=
    ext_get fun k => by rw [get_map, get_map, same]
  have entries := congrArg Std.ExtTreeMap.toList mapped
  rw [Std.ExtTreeMap.toList_map, Std.ExtTreeMap.toList_map] at entries
  have counts := congrArg (List.countP fun e => p e.2) entries
  rwa [List.countP_map, List.countP_map] at counts

theorem values_insert_perm {k : κ} {v : ν} (absent : t[k]? = none) :
    (values (t.insert k v)).Perm (v :: t.values) := by
  have others : (t.toList.filter fun e => e.1 ≠ k) = t.toList := by
    refine List.filter_eq_self.mpr fun e member => decide_eq_true fun same => ?_
    rw [← same, (mem_entries t).mp member] at absent
    cases absent
  have entries := entries_insert_perm t k v
  rw [others] at entries
  exact entries.map Prod.snd

theorem KeyedBy.insert (keyed : KeyedBy key t) (v : ν) : KeyedBy key (t.insert (key v) v) := by
  intro k w found
  rw [get_insert] at found
  split_ifs at found with here
  · rw [← here, Option.some.inj found]
  · exact keyed k w found

omit [Std.LawfulEqOrd κ] [DecidableEq κ] in
theorem insertNew_ok {ε : Type} {duplicate : ε} {v : ν} {u : Table κ ν} :
    insertNew key duplicate t v = .ok u ↔ t[key v]? = none ∧ t.insert (key v) v = u := by
  unfold insertNew
  cases t[key v]? <;> simp

theorem filled_of_foldlM {ε : Type} {duplicate : ε} {vs : List ν} {u : Table κ ν}
    (keyed : t.KeyedBy key) (folds : vs.foldlM (insertNew key duplicate) t = .ok u) :
    u.KeyedBy key ∧ u.values.Perm (t.values ++ vs) := by
  induction vs generalizing t with
  | nil =>
      cases folds
      exact ⟨keyed, by simp⟩
  | cons v vs ih =>
      rw [List.foldlM_cons] at folds
      cases first : insertNew key duplicate t v with
      | error e => simp [first, Bind.bind, Except.bind] at folds
      | ok t1 =>
          rw [first] at folds
          obtain ⟨absent, rfl⟩ := insertNew_ok.mp first
          obtain ⟨keyed', filled⟩ := ih (keyed.insert v) folds
          refine ⟨keyed', filled.trans ?_⟩
          exact ((values_insert_perm (v := v) absent).append_right vs).trans List.perm_middle.symm

theorem keyedBy_foldl_insertIfNew (keyed : t.KeyedBy key) (vs : List ν) :
    (vs.foldl (insertIfNew key) t).KeyedBy key := by
  induction vs generalizing t with
  | nil => exact keyed
  | cons v vs ih =>
      refine ih ?_
      unfold insertIfNew
      split
      · exact keyed
      · exact keyed.insert v

theorem values_foldl_insertIfNew {vs : List ν} (distinct : (vs.map key).Nodup)
    (fresh : ∀ v ∈ vs, t[key v]? = none) :
    (values (vs.foldl (insertIfNew key) t)).Perm (t.values ++ vs) := by
  induction vs generalizing t with
  | nil => simp
  | cons v vs ih =>
      obtain ⟨other, distinct⟩ := List.nodup_cons.mp distinct
      have absent := fresh v List.mem_cons_self
      have new : insertIfNew key t v = t.insert (key v) v := by rw [insertIfNew, absent]
      have later (w) (member : w ∈ vs) : (t.insert (key v) v)[key w]? = none := by
        rw [get_insert_ne]
        · exact fresh w (List.mem_cons_of_mem _ member)
        · exact fun same => other (same ▸ List.mem_map_of_mem member)
      rw [List.foldl_cons, new]
      exact (ih distinct later).trans
        (((values_insert_perm (v := v) absent).append_right vs).trans List.perm_middle.symm)

variable (keyed : KeyedBy key t)

omit [DecidableEq κ] in
include keyed in
theorem KeyedBy.entries : ∀ e ∈ t.toList, key e.2 = e.1 :=
  fun e member => keyed e.1 e.2 ((mem_entries t).mp member)

include keyed in
theorem KeyedBy.insertNew_values {ε : Type} (duplicate : ε) :
    t.values.foldlM (insertNew key duplicate) ∅ = .ok t := by
  rw [values, foldlM_insertNew duplicate keyed.entries (distinct_entries t) (by simp),
    foldl_entries]

include keyed in
theorem KeyedBy.insertIfNew_values : t.values.foldl (insertIfNew key) ∅ = t := by
  rw [values, foldl_insertIfNew keyed.entries (distinct_entries t) (by simp), foldl_entries]

omit [DecidableEq κ] in
theorem eq_of_isLE {a b : κ} (first : (compare a b).isLE = true)
    (second : (compare b a).isLE = true) : a = b :=
  Std.LawfulEqOrd.eq_of_compare (Std.OrientedCmp.isLE_antisymm first second)

omit [Std.LawfulEqOrd κ] [DecidableEq κ] in
theorem not_isLE_of_lt {a b : κ} (smaller : compare a b = .lt) : ¬(compare b a).isLE = true := by
  rw [Std.OrientedCmp.gt_of_lt smaller]
  decide

/-- `std::sort` by key. -/
def sortedBy (key : ν → κ) (vs : List ν) : List ν :=
  vs.insertionSort fun a b => (compare (key a) (key b)).isLE = true

omit [Std.TransOrd κ] [Std.LawfulEqOrd κ] [DecidableEq κ] in
theorem sortedBy_perm (key : ν → κ) (vs : List ν) : (sortedBy key vs).Perm vs :=
  List.perm_insertionSort ..

omit [Std.LawfulEqOrd κ] [DecidableEq κ] in
theorem sortedBy_ordered (key : ν → κ) (vs : List ν) :
    (sortedBy key vs).Pairwise fun a b => (compare (key a) (key b)).isLE = true := by
  let before (a b : ν) : Prop := (compare (key a) (key b)).isLE = true
  have total : Std.Total before := ⟨fun a b => by
    refine or_iff_not_imp_left.mpr fun not_first => ?_
    have second : compare (key b) (key a) = .lt := Std.OrientedCmp.lt_of_not_isLE not_first
    exact congrArg Ordering.isLE second⟩
  have trans : IsTrans ν before := ⟨fun a b c => Std.TransCmp.isLE_trans⟩
  exact List.pairwise_insertionSort before vs

omit [Std.TransOrd κ] [Std.LawfulEqOrd κ] [DecidableEq κ] in
theorem sortedBy_of_ordered {vs : List ν}
    (ordered : vs.Pairwise fun a b => (compare (key a) (key b)).isLE = true) :
    sortedBy key vs = vs :=
  ordered.insertionSort_eq

omit [DecidableEq κ] in
theorem sortedBy_congr {vs ws : List ν} (perm : vs.Perm ws) (distinct : (vs.map key).Nodup) :
    sortedBy key vs = sortedBy key ws := by
  have sorted := (sortedBy_perm key vs).trans (perm.trans (sortedBy_perm key ws).symm)
  refine sorted.eq_of_pairwise (fun a b member member' first second => ?_)
    (sortedBy_ordered key vs) (sortedBy_ordered key ws)
  have same : key a = key b := eq_of_isLE first second
  have here : a ∈ vs := (sortedBy_perm key vs).mem_iff.mp member
  have there : b ∈ vs := perm.mem_iff.mpr ((sortedBy_perm key ws).mem_iff.mp member')
  exact List.inj_on_of_nodup_map distinct here there same

omit [Std.LawfulEqOrd κ] [DecidableEq κ] in
theorem exists_ordered_front {k : κ} {front : List ν} (rest : List ν)
    (keyed : ∀ v ∈ front, key v = k) :
    ∃ before after, (before ++ (front ++ after)).Perm (front ++ rest) ∧
      (before ++ (front ++ after)).Pairwise
        (fun a b => (compare (key a) (key b)).isLE = true) ∧
      ∀ v ∈ before, compare (key v) k = .lt := by
  let smaller := rest.filter fun v => (compare (key v) k).isLT
  let others := rest.filter fun v => !(compare (key v) k).isLT
  have below {v : ν} (member : v ∈ sortedBy key smaller) : compare (key v) k = .lt := by
    have inside := (sortedBy_perm key smaller).mem_iff.mp member
    simpa using (List.mem_filter.mp inside).2
  have above {v : ν} (member : v ∈ sortedBy key others) : (compare k (key v)).isLE = true := by
    have inside := (sortedBy_perm key others).mem_iff.mp member
    exact Std.OrientedCmp.isGE_iff_isLE.mp (by simpa using (List.mem_filter.mp inside).2)
  refine ⟨sortedBy key smaller, sortedBy key others, ?_, ?_, fun v member => below member⟩
  · have parts : (smaller ++ others).Perm rest := List.filter_append_perm _ rest
    have sorted := (sortedBy_perm key smaller).append (sortedBy_perm key others)
    rw [← List.append_assoc]
    exact (List.perm_append_comm.append_right _).trans <| by
      rw [List.append_assoc]
      exact (sorted.trans parts).append_left front
  · have level : front.Pairwise fun a b => (compare (key a) (key b)).isLE = true := by
      refine List.pairwise_of_forall_mem_list fun a here b there => ?_
      rw [keyed a here, keyed b there]
      exact Std.ReflCmp.isLE_rfl
    refine List.pairwise_append.mpr ⟨sortedBy_ordered key smaller,
      List.pairwise_append.mpr ⟨level, sortedBy_ordered key others, ?_⟩, ?_⟩
    · intro a here b there
      rw [keyed a here]
      exact above there
    · intro a here b there
      have least := below here
      rcases List.mem_append.mp there with inFront | after
      · rw [keyed b inFront, least]
        rfl
      · exact Std.TransCmp.isLE_trans (congrArg Ordering.isLE least) (above after)

omit [DecidableEq κ] in
include keyed in
theorem KeyedBy.values_ordered :
    t.values.Pairwise fun a b => compare (key a) (key b) = .lt := by
  rw [values, List.pairwise_map]
  refine t.ordered_keys_toList.imp_of_mem fun {a b} memberA memberB before => ?_
  rw [keyed.entries a memberA, keyed.entries b memberB, before]

omit [DecidableEq κ] in
include keyed in
theorem KeyedBy.nodup_values : (t.values.map key).Nodup := by
  rw [List.Nodup, List.pairwise_map]
  refine keyed.values_ordered.imp fun {a b} before same => ?_
  have equal : compare (key b) (key b) = .eq := Std.ReflCmp.compare_self
  rw [same, equal] at before
  cases before

omit [DecidableEq κ] in
include keyed in
theorem KeyedBy.sortedBy_values : sortedBy key t.values = t.values :=
  List.Pairwise.insertionSort_eq <| keyed.values_ordered.imp fun before => by rw [before]; rfl

end rebuild

end Table
