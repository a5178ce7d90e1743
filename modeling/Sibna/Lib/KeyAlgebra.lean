import Mathlib.Logic.Function.Iterate

/-!
# Key terms, signatures and hash chains

The free algebra of MACs and extraction steps, and what can be derived from a leaked set of terms,
also by one who sees messages sealed under them.
Cursors of one hash chain agree wherever their numbers do.
-/

namespace KeyAlgebra

inductive KeyTerm (A Sh : Type) where
  | atom (a : A)
  | mac (k : KeyTerm A Sh) (label : UInt8)
  | root (k : KeyTerm A Sh) (s : Sh)
  | chain (k : KeyTerm A Sh) (s : Sh)
  deriving DecidableEq

namespace KeyTerm

variable {A Sh : Type}

def level : KeyTerm A Sh → Nat
  | atom _ => 0
  | mac k _ => k.level
  | root k _ => k.level + 1
  | chain k _ => k.level + 1

def origin : KeyTerm A Sh → KeyTerm A Sh
  | atom a => atom a
  | mac k _ => k.origin
  | root k s => root k s
  | chain k s => chain k s

def pos (c : UInt8) : KeyTerm A Sh → Nat
  | mac k l => if l = c then k.pos c + 1 else k.pos c
  | _ => 0

def Any (P : Sh → Prop) : KeyTerm A Sh → Prop
  | atom _ => False
  | mac k _ => k.Any P
  | root k s => k.Any P ∨ P s
  | chain k s => k.Any P ∨ P s

def All (P : Sh → Prop) : KeyTerm A Sh → Prop
  | atom _ => True
  | mac k _ => k.All P
  | root k s => k.All P ∧ P s
  | chain k s => k.All P ∧ P s

lemma All.mono {P Q : Sh → Prop} (hPQ : ∀ s, P s → Q s) {t : KeyTerm A Sh} (h : t.All P) :
    t.All Q := by
  induction t with
  | atom => trivial
  | mac k l ih => exact ih h
  | root k s ih => exact ⟨ih h.1, hPQ s h.2⟩
  | chain k s ih => exact ⟨ih h.1, hPQ s h.2⟩

lemma All.not_any {P Q : Sh → Prop} (hPQ : ∀ s, P s → ¬ Q s) {t : KeyTerm A Sh}
    (h : t.All P) : ¬ t.Any Q := by
  induction t with
  | atom => exact id
  | mac k l ih => exact ih h
  | root k s ih => exact fun hq => hq.elim (ih h.1) (hPQ s h.2)
  | chain k s ih => exact fun hq => hq.elim (ih h.1) (hPQ s h.2)

def Spine (base : A → Prop) : KeyTerm A Sh → Prop
  | atom a => base a
  | root k _ => k.Spine base
  | _ => False

def Strand (base chainBase : A → Prop) (c : UInt8) : KeyTerm A Sh → Prop
  | atom a => chainBase a
  | mac k l => l = c ∧ k.Strand base chainBase c
  | root _ _ => False
  | chain k _ => k.Spine base

end KeyTerm

open KeyTerm

variable {A Sh : Type}

/-- The closure of the leaked terms under every operation of the algebra. There is no rule
that goes from a derived key back to its parent. -/
inductive Derivable (leak : KeyTerm A Sh → Prop) (atoms : A → Prop) (shared : Sh → Prop) :
    KeyTerm A Sh → Prop where
  | leaked {t : KeyTerm A Sh} (h : leak t) : Derivable leak atoms shared t
  | atom {a : A} (h : atoms a) : Derivable leak atoms shared (.atom a)
  | mac {k : KeyTerm A Sh} (l : UInt8) (h : Derivable leak atoms shared k) :
      Derivable leak atoms shared (.mac k l)
  | root {k : KeyTerm A Sh} {s : Sh} (h : Derivable leak atoms shared k) (hs : shared s) :
      Derivable leak atoms shared (.root k s)
  | chain {k : KeyTerm A Sh} {s : Sh} (h : Derivable leak atoms shared k) (hs : shared s) :
      Derivable leak atoms shared (.chain k s)

/-- What travels: data, keys, and what is sealed under a key with a nonce and associated data. -/
inductive WireTerm (K D : Type) where
  | data (d : D)
  | key (k : K)
  | pair (a b : WireTerm K D)
  | sealed (k : K) (nonce ad : D) (content : WireTerm K D)

namespace WireTerm
variable {K K' D : Type}

def map (f : K → K') : WireTerm K D → WireTerm K' D
  | data d => data d
  | key k => key (f k)
  | pair a b => pair (a.map f) (b.map f)
  | sealed k n ad m => sealed (f k) n ad (m.map f)

/-- Every key that is found in the term, once all is opened, satisfies `P`. -/
def Carries (P : K → Prop) : WireTerm K D → Prop
  | data _ => True
  | key k => P k
  | pair a b => a.Carries P ∧ b.Carries P
  | sealed _ _ _ m => m.Carries P

end WireTerm

/-- What is learned from a wire and a leak: messages are taken apart and opened under every key
learned, and every operation is applied. -/
inductive Learnable {D : Type} (wire : WireTerm (KeyTerm A Sh) D → Prop)
    (leak : KeyTerm A Sh → Prop) (atoms : A → Prop) (shared : Sh → Prop) :
    WireTerm (KeyTerm A Sh) D → Prop where
  | wire {m} (h : wire m) : Learnable wire leak atoms shared m
  | leaked {t} (h : leak t) : Learnable wire leak atoms shared (.key t)
  | atom {a} (h : atoms a) : Learnable wire leak atoms shared (.key (.atom a))
  | mac {k} (l : UInt8) (h : Learnable wire leak atoms shared (.key k)) :
      Learnable wire leak atoms shared (.key (.mac k l))
  | root {k s} (h : Learnable wire leak atoms shared (.key k)) (hs : shared s) :
      Learnable wire leak atoms shared (.key (.root k s))
  | chain {k s} (h : Learnable wire leak atoms shared (.key k)) (hs : shared s) :
      Learnable wire leak atoms shared (.key (.chain k s))
  | data (d : D) : Learnable wire leak atoms shared (.data d)
  | pair {a b} (ha : Learnable wire leak atoms shared a) (hb : Learnable wire leak atoms shared b) :
      Learnable wire leak atoms shared (.pair a b)
  | left {a b} (h : Learnable wire leak atoms shared (.pair a b)) :
    Learnable wire leak atoms shared a
  | right {a b} (h : Learnable wire leak atoms shared (.pair a b)) :
      Learnable wire leak atoms shared b
  | close {k n ad m} (hk : Learnable wire leak atoms shared (.key k))
      (hm : Learnable wire leak atoms shared m) :
        Learnable wire leak atoms shared (.sealed k n ad m)
  | opened {k n ad m} (hk : Learnable wire leak atoms shared (.key k))
      (h : Learnable wire leak atoms shared (.sealed k n ad m)) : Learnable wire leak atoms shared m

/-- A wire that carries no other key adds none to what is derived without it. -/
lemma Learnable.carries {D : Type} {wire : WireTerm (KeyTerm A Sh) D → Prop}
    {leak : KeyTerm A Sh → Prop} {atoms : A → Prop} {shared : Sh → Prop}
    {m : WireTerm (KeyTerm A Sh) D} (hw : ∀ m, wire m → m.Carries (Derivable leak atoms shared))
    (h : Learnable wire leak atoms shared m) : m.Carries (Derivable leak atoms shared) := by
  induction h with
  | wire h => exact hw _ h
  | leaked h => exact .leaked h
  | atom h => exact .atom h
  | mac l _ ih => exact .mac l ih
  | root _ hs ih => exact .root ih hs
  | chain _ hs ih => exact .chain ih hs
  | data => trivial
  | pair _ _ iha ihb => exact ⟨iha, ihb⟩
  | left _ ih => exact ih.1
  | right _ ih => exact ih.2
  | close _ _ _ ih => exact ih
  | opened _ _ _ ih => exact ih

/-- No step of the term's derivation is leaked, and each extraction step has an input that
is out of reach. -/
def Sealed (leak : KeyTerm A Sh → Prop) (atoms : A → Prop) (shared : Sh → Prop) :
    KeyTerm A Sh → Prop
  | .atom a => ¬ leak (.atom a) ∧ ¬ atoms a
  | .mac k l => ¬ leak (.mac k l) ∧ Sealed leak atoms shared k
  | .root k s => ¬ leak (.root k s) ∧ (Sealed leak atoms shared k ∨ ¬ shared s)
  | .chain k s => ¬ leak (.chain k s) ∧ (Sealed leak atoms shared k ∨ ¬ shared s)

section
variable {leak : KeyTerm A Sh → Prop} {atoms : A → Prop} {shared : Sh → Prop}

variable {t : KeyTerm A Sh}

lemma Sealed.not_leaked (h : Sealed leak atoms shared t) : ¬ leak t := by
  cases t with
  | atom | mac | root | chain => exact h.1

lemma Derivable.not_sealed (h : Derivable leak atoms shared t) : ¬ Sealed leak atoms shared t := by
  induction h with
  | leaked h => exact fun hs => hs.not_leaked h
  | atom h => exact fun hs => hs.2 h
  | mac l _ ih => exact fun hs => ih hs.2
  | root _ hs ih => exact fun h => h.2.elim ih (fun hn => hn hs)
  | chain _ hs ih => exact fun h => h.2.elim ih (fun hn => hn hs)

lemma sealed_of_any {hi : Sh → Prop} (hle : ∀ t, leak t → ¬ t.Any hi)
    (hsh : ∀ s, hi s → ¬ shared s) (h : t.Any hi) : Sealed leak atoms shared t := by
  induction t with
  | atom => exact h.elim
  | mac k l ih => exact ⟨fun hl => hle _ hl h, ih h⟩
  | root k s ih => exact ⟨fun hl => hle _ hl h, h.imp ih (hsh s)⟩
  | chain k s ih => exact ⟨fun hl => hle _ hl h, h.imp ih (hsh s)⟩

lemma sealed_of_origin {a : A} (hat : ¬ atoms a) (hle : ∀ t, leak t → t.origin ≠ .atom a)
    (ht : t.origin = .atom a) : Sealed leak atoms shared t := by
  induction t with
  | atom b =>
    cases ht
    exact ⟨fun hl => hle _ hl rfl, hat⟩
  | mac k l ih => exact ⟨fun hl => hle _ hl ht, ih ht⟩
  | root | chain => cases ht

lemma sealed_spine {base : A → Prop} {n : Nat} (hb : ∀ a, base a → ¬ atoms a)
    (hle : ∀ t, leak t → t.Spine base → n ≤ t.level) (ht : t.Spine base) (hn : t.level < n) :
    Sealed leak atoms shared t := by
  induction t with
  | atom a => exact ⟨fun hl => absurd (hle _ hl ht) (by omega), hb a ht⟩
  | mac | chain => exact ht.elim
  | root k s ih =>
    refine ⟨fun hl => absurd (hle _ hl ht) (by omega), .inl (ih ht ?_)⟩
    simp only [level] at hn
    omega

lemma sealed_strand {base cb : A → Prop} {c : UInt8} {n : Nat} (hb : ∀ a, base a → ¬ atoms a)
    (hc : ∀ a, cb a → ¬ atoms a) (hr : ∀ t, leak t → t.Spine base → n ≤ t.level)
    (ht : t.Strand base cb c) (hn : t.level ≤ n)
    (hle : ∀ u, leak u → u.Strand base cb c → u.level = t.level → t.pos c < u.pos c) :
    Sealed leak atoms shared t := by
  induction t with
  | atom a => exact ⟨fun hl => absurd (hle _ hl ht rfl) (by simp), hc a ht⟩
  | root => exact ht.elim
  | mac k l ih =>
    obtain ⟨rfl, hk⟩ := ht
    refine ⟨fun hl => absurd (hle _ hl ⟨rfl, hk⟩ rfl) (by simp), ih hk hn ?_⟩
    intro u hu hus hlv
    have h := hle u hu hus hlv
    simp only [pos, if_true] at h
    omega
  | chain k s ih =>
    refine ⟨fun hl => absurd (hle _ hl ht rfl) (by simp), .inl ?_⟩
    apply sealed_spine hb hr ht
    simp only [level] at hn
    omega

end

end KeyAlgebra

namespace Signatures

structure Record (PublicKey Message Signature : Type) where
  made : PublicKey → Message → Signature → Prop
  unique : ∀ {pk pk' : PublicKey} {m m' : Message} {s : Signature},
    made pk m s → made pk' m' s → pk = pk' ∧ m = m'

namespace Record

variable {PublicKey Message Signature : Type}
variable {R : Record PublicKey Message Signature}
variable {verify : PublicKey → Message → Signature → Bool}

/-- A signature verifies only if the owner of the key made it on the message. Ed25519 keys of low
order, for which anyone can make signatures, are outside of this. -/
def Sound (R : Record PublicKey Message Signature)
    (verify : PublicKey → Message → Signature → Bool) : Prop :=
  ∀ {pk : PublicKey} {m : Message} {s : Signature}, verify pk m s = true → R.made pk m s

lemma Sound.eq_of_verify (h : R.Sound verify) {pk pk' : PublicKey} {m m' : Message} {s : Signature}
    (hs : verify pk m s = true) (hs' : verify pk' m' s = true) : pk = pk' ∧ m = m' :=
  R.unique (h hs) (h hs')

lemma Sound.refused (h : R.Sound verify) {pk pk' : PublicKey} {m m' : Message} {s : Signature}
    (hma : R.made pk m s) (hne : pk' ≠ pk ∨ m' ≠ m) : verify pk' m' s = false := by
  rw [Bool.eq_false_iff]
  intro hs
  obtain ⟨hpk, hm⟩ := R.unique (h hs) hma
  rcases hne with hne | hne
  · exact hne hpk
  · exact hne hm

end Record

end Signatures

namespace HashChain

structure Cursor (K : Type) where
  key : K
  number : Nat

variable {K M : Type} {next : K → K} {out : K → M}

namespace Cursor

def advance (next : K → K) (n : Nat) (c : Cursor K) : Cursor K := ⟨next^[n] c.key, c.number + n⟩

lemma advance_advance (m n : Nat) (c : Cursor K) :
    (c.advance next m).advance next n = c.advance next (m + n) := by
  simp only [advance, Cursor.mk.injEq]
  refine ⟨?_, by omega⟩
  rw [Nat.add_comm m n, Function.iterate_add_apply]

def Reaches (next : K → K) (b c : Cursor K) : Prop := ∃ n, c = b.advance next n

lemma Reaches.refl (b : Cursor K) : b.Reaches next b := ⟨0, rfl⟩

lemma Reaches.advance {b c : Cursor K} (h : b.Reaches next c) (n : Nat) :
    b.Reaches next (c.advance next n) := by
  obtain ⟨m, rfl⟩ := h
  exact ⟨m + n, advance_advance m n b⟩

variable {b c : Cursor K}

lemma Reaches.trans {d : Cursor K} (h : b.Reaches next c) (h' : c.Reaches next d) :
    b.Reaches next d := by
  obtain ⟨n, rfl⟩ := h'
  exact h.advance n

lemma Reaches.number_le (h : b.Reaches next c) : b.number ≤ c.number := by
  obtain ⟨n, rfl⟩ := h
  exact Nat.le_add_right _ _

lemma Reaches.advance_of_le {d : Cursor K} (hc : b.Reaches next c) (hd : b.Reaches next d)
    (hle : c.number ≤ d.number) : d = c.advance next (d.number - c.number) := by
  obtain ⟨m, rfl⟩ := hc
  obtain ⟨n, rfl⟩ := hd
  have hmn : m ≤ n := Nat.le_of_add_le_add_left hle
  have hsu : b.number + n - (b.number + m) = n - m := by omega
  rw [advance_advance]
  simp only [Cursor.advance, hsu, Nat.add_sub_cancel' hmn]

end Cursor

def Acyclic (next : K → K) (out : K → M) : Prop :=
  ∀ k i j, out (next^[i] k) = out (next^[j] k) → i = j

lemma Acyclic.number_eq (h : Acyclic next out) {b c d : Cursor K} (hc : b.Reaches next c)
    (hd : b.Reaches next d) (ho : out c.key = out d.key) : c.number = d.number := by
  obtain ⟨m, rfl⟩ := hc
  obtain ⟨n, rfl⟩ := hd
  rw [Cursor.advance, Cursor.advance, h b.key m n ho]

end HashChain
