import Mathlib.Data.List.Sort
import Sibna.Lib.Text
import Sibna.Primitives

/-!
# Tables, requests and answers of the relay server

`RedbTree` of `db.rs`: every operation is one transaction, which can fail.
-/

namespace Sibna.Server

abbrev Table (β : Type) := AList fun _ : Bytes => β

structure Access where
  fails : Bool
  readable : Nat → Bool

def Access.clean : Access where
  fails := false
  readable := fun _ => true

inductive TreeOp (β : Type) where
  | insert (key : Bytes) (value : β)
  | get (key : Bytes)
  | remove (key : Bytes)
  | scanPrefix (pfx : Bytes)
  | iter

/-- `none` is an error; no caller looks at which. -/
@[reducible] def TreeOp.Ans {β : Type} : TreeOp β → Type
  | .insert _ _ => Option Unit
  | .get _ => Option (Option β)
  | .remove _ => Option (Option β)
  | .scanPrefix _ => List (Bytes × β)
  | .iter => List (Bytes × β)

namespace Table
variable {β : Type}

/-- The entries as a range over the table gives them, in the order of the keys. -/
def sorted (t : Table β) : List (Bytes × β) :=
  (t.entries.map fun entry => (entry.1, entry.2)).insertionSort fun a b => a.1 ≤ b.1

/-- It ends at the first entry it cannot read. -/
def scanPrefix (t : Table β) (access : Access) (pfx : Bytes) : List (Bytes × β) :=
  if access.fails then []
  else
    ((t.sorted.filter fun entry => pfx.isPrefixOf entry.1).zipIdx.takeWhile
      fun entry => access.readable entry.2).map Prod.fst

/-- It leaves out the entries it cannot read. -/
def iter (t : Table β) (access : Access) : List (Bytes × β) :=
  if access.fails then []
  else (t.sorted.zipIdx.filter fun entry => access.readable entry.2).map Prod.fst

def act (access : Access) : (op : TreeOp β) → Table β → op.Ans × Table β
  | .insert key value, t => if access.fails then (none, t) else (some (), t.insert key value)
  | .get key, t => (if access.fails then none else some (t.lookup key), t)
  | .remove key, t => if access.fails then (none, t) else (some (t.lookup key), t.erase key)
  | .scanPrefix pfx, t => (t.scanPrefix access pfx, t)
  | .iter, t => (t.iter access, t)

variable {t : Table β} {access : Access} {k pfx : Bytes} {v : β}

lemma mem_sorted : (k, v) ∈ t.sorted ↔ t.lookup k = some v := by
  rw [sorted, List.mem_insertionSort, List.mem_map]
  constructor
  · rintro ⟨en, hen, heq⟩
    cases heq
    exact AList.mem_lookup_iff.mpr hen
  · intro h
    exact ⟨⟨k, v⟩, AList.mem_lookup_iff.mp h, rfl⟩

lemma sorted_keys_nodup (t : Table β) : (t.sorted.map Prod.fst).Nodup := by
  have hpe := (List.perm_insertionSort (fun a b : Bytes × β => a.1 ≤ b.1)
    (t.entries.map fun en => (en.1, en.2))).map Prod.fst
  rw [sorted, hpe.nodup_iff, List.map_map]
  exact t.nodupKeys

lemma scanPrefix_sublist (t : Table β) (access : Access) (pfx : Bytes) :
    (t.scanPrefix access pfx).Sublist (t.sorted.filter fun entry => pfx.isPrefixOf entry.1) := by
  unfold scanPrefix
  split
  · exact List.nil_sublist _
  · have h := (List.takeWhile_sublist (fun entry : _ × Nat => access.readable entry.2)
      (l := (t.sorted.filter fun entry => pfx.isPrefixOf entry.1).zipIdx)).map Prod.fst
    rwa [List.zipIdx_map_fst] at h

lemma mem_scanPrefix (h : (k, v) ∈ t.scanPrefix access pfx) : t.lookup k = some v ∧ pfx <+: k := by
  obtain ⟨hm, hpf⟩ := List.mem_filter.mp ((scanPrefix_sublist t access pfx).subset h)
  exact ⟨mem_sorted.mp hm, List.isPrefixOf_iff_prefix.mp hpf⟩

lemma scanPrefix_keys_nodup (t : Table β) (access : Access) (pfx : Bytes) :
    ((t.scanPrefix access pfx).map Prod.fst).Nodup :=
  (sorted_keys_nodup t).sublist
    (((scanPrefix_sublist t access pfx).trans List.filter_sublist).map Prod.fst)

lemma lookup_act_insert (access : Access) (key : Bytes) (v : β) (t : Table β) (k : Bytes) :
    (act access (.insert key v) t).2.lookup k =
      if access.fails = false ∧ k = key then some v else t.lookup k := by
  obtain rfl | hk := eq_or_ne k key <;> cases hf : access.fails <;> simp [act, *]

lemma lookup_act_remove (access : Access) (key : Bytes) (t : Table β) (k : Bytes) :
    (act access (.remove key) t).2.lookup k =
      if access.fails = false ∧ k = key then none else t.lookup k := by
  obtain rfl | hk := eq_or_ne k key <;> cases hf : access.fails <;> simp [act, *]

def Steps {Op : Type} (wrap : TreeOp β → Op) (op : Op) (access : Access) (t t' : Table β)
    (k : Bytes) : Prop :=
  t'.lookup k = t.lookup k ∨
    (∃ v, op = wrap (.insert k v) ∧ access.fails = false ∧ t'.lookup k = some v) ∨
    op = wrap (.remove k) ∧ access.fails = false ∧ t'.lookup k = none

lemma Steps.act {Op : Type} (wrap : TreeOp β → Op) (op : TreeOp β) (access : Access) (t : Table β)
    (k : Bytes) : Steps wrap (wrap op) access t (Table.act access op t).2 k := by
  cases op with
  | get | scanPrefix | iter => exact .inl rfl
  | insert key value =>
    rw [Steps, lookup_act_insert]
    split
    · simp_all
    · exact .inl rfl
  | remove key =>
    rw [Steps, lookup_act_remove]
    split
    · simp_all
    · exact .inl rfl

end Table

open Text

/-- The subject of a token: `prove_handler` issues it for a hex string of 32 bytes, in the spelling
of the request. -/
structure Claims where
  sub : Bytes
  key : Bytes32
  decodes : hexDecode sub = some key.val

inductive Status where
  | ok
  | accepted
  | badRequest
  | unauthorized
  | forbidden
  | notFound
  | conflict
  | tooManyRequests
  | internalServerError
  deriving DecidableEq

inductive Body (β : Type) where
  | empty
  | text (s : String)
  | json (value : β)
  deriving DecidableEq

structure Response (β : Type) where
  status : Status
  body : Body β
  deriving DecidableEq

def tooManyRequests {β : Type} (text : String) : Response β := ⟨.tooManyRequests, .text text⟩

def colon : UInt8 := 58

lemma colon_notMem_hexEncode (bs : Bytes) : colon ∉ hexEncode bs :=
  notMem_of_hexDecode (hexDecode_hexEncode bs) rfl

lemma Claims.colon_notMem (cl : Claims) : colon ∉ cl.sub :=
  notMem_of_hexDecode cl.decodes rfl

lemma colon_notMem_decimal (n : Nat) : colon ∉ decimal n := by
  intro h
  have hdi := (digit_of_mem_decimal h).2
  simp [colon] at hdi

end Sibna.Server
