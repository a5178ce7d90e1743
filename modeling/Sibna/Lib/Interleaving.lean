import Mathlib.Logic.Relation
import Sibna.Lib.Runs

/-!
# Interleaved programs

Programs are trees of atomic operations on a shared state. What one promises is stated for
everything others may do in between, so it is proved for each alone and holds along every run.
-/

namespace Interleaving

inductive Prog (Op : Type) (Ans : Op → Type) (α : Type) where
  | ret (a : α)
  | step (op : Op) (next : Ans op → Prog Op Ans α)

namespace Prog
variable {Op : Type} {Ans : Op → Type} {α β : Type}

def bind : Prog Op Ans α → (α → Prog Op Ans β) → Prog Op Ans β
  | .ret a, f => f a
  | .step op next, f => .step op fun ans => (next ans).bind f

instance : Monad (Prog Op Ans) where
  pure := .ret
  bind := bind

def result : Prog Op Ans α → Option α
  | .ret a => some a
  | .step _ _ => none

def perform (op : Op) : Prog Op Ans (Ans op) := .step op .ret

@[simp] lemma ret_bind (a : α) (f : α → Prog Op Ans β) : (Prog.ret a >>= f) = f a := rfl

@[simp] lemma step_bind (op : Op) (next : Ans op → Prog Op Ans α) (f : α → Prog Op Ans β) :
    (Prog.step op next >>= f) = .step op fun ans => next ans >>= f := rfl

@[simp] lemma perform_bind (op : Op) (f : Ans op → Prog Op Ans β) :
    (perform op >>= f) = .step op f := rfl

section
variable {σ ε : Type} (act : ε → (op : Op) → σ → Ans op × σ)

/-- The program alone; `env` is what each of its operations meets, the rest is handed back. -/
def run : Prog Op Ans α → (Nat → ε) → σ → α × σ × (Nat → ε)
  | .ret a, env, s => (a, s, env)
  | .step op next, env, s =>
    run (next (act (env 0) op s).1) (fun n => env (n + 1)) (act (env 0) op s).2

lemma run_bind (p : Prog Op Ans α) (f : α → Prog Op Ans β) (env : Nat → ε) (s : σ) :
    (p >>= f).run act env s =
      (f (p.run act env s).1).run act (p.run act env s).2.2 (p.run act env s).2.1 := by
  induction p generalizing env s with
  | ret a => rfl
  | step op next ih => exact ih _ _ _

end

end Prog

structure System where
  Op : Type
  Ans : Op → Type
  Shared : Type
  Env : Type
  Call : Type
  Result : Type
  act : Env → (op : Op) → Shared → Ans op × Shared
  body : Call → Prog Op Ans Result

structure Entry (M : System) where
  thread : Nat
  call : M.Call
  env : M.Env
  op : M.Op
  ans : M.Ans op

structure State (M : System) where
  shared : M.Shared
  log : List (Entry M)

structure World (M : System) where
  state : State M
  threads : List (M.Call × Prog M.Op M.Ans M.Result)

inductive Event (M : System) where
  | start (call : M.Call)
  | advance (thread : Nat) (env : M.Env)

variable {M : System}

section
variable (s : State M) (i : Nat) (c : M.Call) (e : M.Env) (op : M.Op)

def State.perform : State M where
  shared := (M.act e op s.shared).2
  log := ⟨i, c, e, op, (M.act e op s.shared).1⟩ :: s.log

@[simp] lemma State.perform_shared : (s.perform i c e op).shared = (M.act e op s.shared).2 := rfl

@[simp] lemma State.perform_log :
    (s.perform i c e op).log = ⟨i, c, e, op, (M.act e op s.shared).1⟩ :: s.log := rfl

end

def World.initial (s : M.Shared) : World M := ⟨⟨s, []⟩, []⟩

def World.step (w : World M) : Event M → World M
  | .start c => { w with threads := w.threads ++ [(c, M.body c)] }
  | .advance i e =>
    match w.threads[i]? with
    | some (c, .step op next) =>
      { state := w.state.perform i c e op
        threads := w.threads.set i (c, next (M.act e op w.state.shared).1) }
    | _ => w

def World.Meets (ok : State M → Nat → M.Call → M.Env → M.Op → Prop) (w : World M) : Event M → Prop
  | .start _ => True
  | .advance i e => ∀ c op next, w.threads[i]? = some (c, .step op next) → ok w.state i c e op

instance decidableMeets (ok : State M → Nat → M.Call → M.Env → M.Op → Prop)
    [∀ s i c e op, Decidable (ok s i c e op)] (w : World M) :
    (event : Event M) → Decidable (w.Meets ok event)
  | .start _ => isTrue trivial
  | .advance i e =>
    match hi : w.threads[i]? with
    | none => isTrue fun _ _ _ h => nomatch hi.symm.trans h
    | some (_, .ret _) => isTrue fun _ _ _ h => nomatch hi.symm.trans h
    | some (c, .step op next) =>
      decidable_of_iff (ok w.state i c e op)
        ⟨fun hok c' op' next' h => by
          cases hi.symm.trans h
          exact hok,
        fun h => h c op next hi⟩

abbrev Schedule (M : System) := List (Event M)

/-- In the run from a shared state, every operation meets the condition when it is carried out. -/
abbrev Along (ok : State M → Nat → M.Call → M.Env → M.Op → Prop) (s : M.Shared) (es : Schedule M) :
    Prop :=
  Runs.Guarded World.step (World.Meets ok) (World.initial s) es

section
variable {ok : State M → Nat → M.Call → M.Env → M.Op → Prop}

lemma guarded_of_always (h : ∀ s i c e op, ok s i c e op) (w : World M) (es : List (Event M)) :
    Runs.Guarded World.step (World.Meets ok) w es := by
  induction es generalizing w with
  | nil => trivial
  | cons ev es ih =>
    refine ⟨?_, ih _⟩
    cases ev with
    | start c => trivial
    | advance i e => exact fun c op _ _ => h w.state i c e op

lemma reached_iff_guarded
    {I : State M → Prop} (hok : ∀ {s i c e op}, I s → (ok s i c e op ↔ I (s.perform i c e op)))
    {w : World M} (hw : I w.state) (es : List (Event M)) :
    (∀ n, I (Runs.exec World.step w (es.take n)).state) ↔
      Runs.Guarded World.step (World.Meets ok) w es := by
  refine Runs.reached_iff_guarded (I := fun w : World M => I w.state) ?_ hw es
  intro w ev hI
  cases ev with
  | start c => exact ⟨fun _ => hI, fun _ => trivial⟩
  | advance i e =>
    simp only [World.step, World.Meets]
    split
    · rename_i c op next hi
      constructor
      · exact fun h => (hok hI).mp (h c op next hi)
      · grind
    · simp_all

end

/-- `ok` is the condition on the run, `allowed` is what every call promises of its operations,
`inv` is what then holds of the shared state and the log. -/
structure Contract (M : System) where
  inv : State M → Prop
  ok : State M → Nat → M.Call → M.Env → M.Op → Prop
  allowed : State M → Nat → M.Call → M.Env → M.Op → Prop
  kept : ∀ {s i c e op}, inv s → ok s i c e op → allowed s i c e op → inv (s.perform i c e op)

namespace Contract
variable (P : Contract M)

def Other (i : Nat) (s s' : State M) : Prop :=
  ∃ j c e op, j ≠ i ∧ P.inv s ∧ P.ok s j c e op ∧ P.allowed s j c e op ∧ s' = s.perform j c e op

/-- Whatever the others do, every operation of the program is allowed, and `post` holds of its
result from its end on. -/
def Keeps {α : Type} (i : Nat) (c : M.Call) (post : α → State M → Prop) :
    Prog M.Op M.Ans α → State M → Prop
  | .ret a, s => ∀ s', Relation.ReflTransGen (P.Other i) s s' → post a s'
  | .step op next, s => ∀ s', Relation.ReflTransGen (P.Other i) s s' → P.inv s' → ∀ e,
      P.ok s' i c e op → P.allowed s' i c e op ∧
        Keeps i c post (next (M.act e op s'.shared).1) (s'.perform i c e op)

variable {P} {α β : Type} {i : Nat} {c : M.Call}

variable {A : State M → Prop} {w : World M} {p : Prog M.Op M.Ans α} {s : State M}

section
variable {post : α → State M → Prop}

lemma Keeps.other {s' : State M} (h : P.Keeps i c post p s) (ho : P.Other i s s') :
    P.Keeps i c post p s' := by
  cases p with
  | ret | step => exact fun s'' hs'' => h s'' (hs''.head ho)

lemma Keeps.mono {post' : α → State M → Prop} (h : P.Keeps i c post p s)
    (hpo : ∀ a s, post a s → post' a s) : P.Keeps i c post' p s := by
  induction p generalizing s with
  | ret a => exact fun s' hs' => hpo a s' (h s' hs')
  | step op next ih =>
    intro s' hs' hin e hok
    obtain ⟨hal, hn⟩ := h s' hs' hin e hok
    exact ⟨hal, ih _ hn⟩

lemma Keeps.bind {post' : β → State M → Prop} {f : α → Prog M.Op M.Ans β} (h : P.Keeps i c post p s)
    (hf : ∀ a s, post a s → P.Keeps i c post' (f a) s) : P.Keeps i c post' (p >>= f) s := by
  induction p generalizing s with
  | ret a => exact hf a s (h s .refl)
  | step op next ih =>
    intro s' hs' hin e hok
    obtain ⟨hal, hn⟩ := h s' hs' hin e hok
    exact ⟨hal, ih _ hn⟩

def Stable (P : Contract M) (i : Nat) (A : State M → Prop) : Prop :=
  ∀ {s j c e op}, j ≠ i → P.inv s → P.ok s j c e op → P.allowed s j c e op → A s →
    A (s.perform j c e op)

lemma Stable.rely (hA : P.Stable i A) {s' : State M} (h : A s)
    (hs : Relation.ReflTransGen (P.Other i) s s') : A s' := by
  induction hs with
  | refl => exact h
  | tail _ ho ih =>
    obtain ⟨j, c, e, op, hj, hin, hok, hal, rfl⟩ := ho
    exact hA hj hin hok hal ih

lemma keeps_ret {a : α} (hA : P.Stable i A) (h : A s) (hpo : ∀ s, A s → post a s) :
    P.Keeps i c post (.ret a) s :=
  fun _ hs' => hpo _ (hA.rely h hs')

lemma keeps_ret_of {a : α} (h : ∀ s, post a s) (s : State M) : P.Keeps i c post (.ret a) s :=
  fun s' _ => h s'

lemma keeps_step {op : M.Op} {next : M.Ans op → Prog M.Op M.Ans α} (hA : P.Stable i A) (h : A s)
    (hs : ∀ s e, P.inv s → A s → P.ok s i c e op → P.allowed s i c e op ∧
      P.Keeps i c post (next (M.act e op s.shared).1) (s.perform i c e op)) :
    P.Keeps i c post (.step op next) s :=
  fun s' hs' hin e hok => hs s' e hin (hA.rely h hs') hok

end

def Fresh (i : Nat) (s : State M) : Prop := ∀ entry ∈ s.log, entry.thread ≠ i

def Sound (P : Contract M) (post : Nat → M.Call → M.Result → State M → Prop) : Prop :=
  ∀ s i c, P.inv s → Fresh i s → P.Keeps i c (post i c) (M.body c) s

structure Kept (P : Contract M) (post : Nat → M.Call → M.Result → State M → Prop) (w : World M) :
    Prop where
  inv : P.inv w.state
  fresh : ∀ i, w.threads.length ≤ i → Fresh i w.state
  keeps : ∀ i c p, w.threads[i]? = some (c, p) → P.Keeps i c (post i c) p w.state

variable {post : Nat → M.Call → M.Result → State M → Prop}

lemma Kept.start {w : World M} (hP : P.Sound post) (h : P.Kept post w) (c : M.Call) :
    P.Kept post (w.step (.start c)) where
  inv := h.inv
  fresh j hj := by
    simp only [World.step, List.length_append] at hj
    exact h.fresh j (by omega)
  keeps j c' p hp := by
    simp only [World.step] at hp
    by_cases hj : j < w.threads.length
    · rw [List.getElem?_append_left hj] at hp
      exact h.keeps j c' p hp
    have hj' : j = w.threads.length := by
      have hlt := (List.getElem?_eq_some_iff.mp hp).1
      simp only [List.length_append, List.length_singleton] at hlt
      omega
    subst hj'
    rw [List.getElem?_concat_length, Option.some.injEq, Prod.mk.injEq] at hp
    obtain ⟨rfl, rfl⟩ := hp
    exact hP w.state _ c h.inv (h.fresh _ (Nat.le_refl _))

lemma Kept.advance {w : World M} (h : P.Kept post w) {i : Nat} {e : M.Env}
    (hok : w.Meets P.ok (.advance i e)) : P.Kept post (w.step (.advance i e)) := by
  simp only [World.step]
  split
  · rename_i c op next hi
    have hlt := (List.getElem?_eq_some_iff.mp hi).1
    obtain ⟨hal, hn⟩ := h.keeps i c _ hi w.state .refl h.inv e (hok c op next hi)
    refine ⟨P.kept h.inv (hok c op next hi) hal, ?_, ?_⟩
    · intro j hj en hen
      rw [List.length_set] at hj
      rcases List.mem_cons.mp hen with rfl | hen
      · exact Nat.ne_of_lt (Nat.lt_of_lt_of_le hlt hj)
      · exact h.fresh j hj en hen
    · intro j c' p hp
      by_cases hji : j = i
      · simp_all
      · rw [List.getElem?_set_ne (Ne.symm hji)] at hp
        exact (h.keeps j c' p hp).other
          ⟨i, c, e, op, Ne.symm hji, h.inv, hok c op next hi, hal, rfl⟩
  · exact h

/-- Along every run that meets the condition, every call keeps the contract. -/
lemma Sound.run (hP : P.Sound post) {es : List (Event M)} (h : P.Kept post w)
    (hes : Runs.Guarded World.step (World.Meets P.ok) w es) :
    P.Kept post (Runs.exec World.step w es) := by
  refine hes.invariant (I := P.Kept post) ?_ h
  intro w ev h hok
  cases ev with
  | start c => exact h.start hP c
  | advance i e => exact h.advance hok

lemma kept_initial {s : M.Shared} (h : P.inv ⟨s, []⟩) : P.Kept post (World.initial s) where
  inv := h
  fresh _ _ _ hen := absurd hen List.not_mem_nil
  keeps _ _ _ hp := by simp [World.initial] at hp

lemma Kept.exists_thread (h : P.Kept post w) {entry : Entry M} (hen : entry ∈ w.state.log) :
    ∃ c p, w.threads[entry.thread]? = some (c, p) := by
  have hlt : entry.thread < w.threads.length := by
    rcases Nat.lt_or_ge entry.thread w.threads.length with hlt | hle
    · exact hlt
    · exact absurd rfl (h.fresh _ hle entry hen)
  exact ⟨(w.threads[entry.thread]).1, (w.threads[entry.thread]).2, List.getElem?_eq_getElem hlt⟩

lemma Kept.result (h : P.Kept post w) {i : Nat} {c : M.Call} {p : Prog M.Op M.Ans M.Result}
    {a : M.Result} (hi : w.threads[i]? = some (c, p)) (ha : p.result = some a) :
    post i c a w.state := by
  cases p with
  | ret b =>
    cases ha
    exact h.keeps i c _ hi w.state .refl
  | step op next => cases ha

end Contract

/-- Operations with their answers, the latest first. -/
abbrev History (Op : Type) (Ans : Op → Type) := List ((op : Op) × Ans op)

section
variable {Op : Type} {Ans : Op → Type}

def Without (kind : Op → Bool) (past : History Op Ans) : Prop :=
  ∀ d ∈ past, kind d.1 = false

lemma Without.nil (kind : Op → Bool) : Without kind ([] : History Op Ans) := by
  rintro d ⟨⟩

lemma Without.cons {kind : Op → Bool} {past : History Op Ans} (h : Without kind past) {op : Op}
    {ans : Ans op} (hop : kind op = false) : Without kind (⟨op, ans⟩ :: past) := by
  intro d hd
  rcases List.mem_cons.mp hd with rfl | hd
  · exact hop
  · exact h d hd

def firstOf {α : Type} (f : (op : Op) × Ans op → Option α) : History Op Ans → Option α
  | [] => none
  | d :: past => (firstOf f past).or (f d)

end

section
variable {Op : Type} {Ans : Op → Type} {α : Type} {f : (op : Op) × Ans op → Option α}
  {past : History Op Ans} {a : α} (h : firstOf f past = some a)
include h

lemma firstOf_cons (d : (op : Op) × Ans op) : firstOf f (d :: past) = some a := by
  rw [firstOf, h, Option.some_or]

lemma firstOf_append (later : History Op Ans) : firstOf f (later ++ past) = some a := by
  induction later with
  | nil => exact h
  | cons d later ih => exact firstOf_cons ih d

end

namespace Prog
variable {Op : Type} {Ans : Op → Type} {α β : Type}

/-- `Q` holds of every operation the program comes to and of what it has done before, `R` of its
result. -/
def Always (possible : (op : Op) → Ans op → Prop) (Q : History Op Ans → Op → Prop)
    (R : History Op Ans → α → Prop) : History Op Ans → Prog Op Ans α → Prop
  | past, .ret a => R past a
  | past, .step op next =>
    Q past op ∧ ∀ ans, possible op ans → Always possible Q R (⟨op, ans⟩ :: past) (next ans)

variable {possible : (op : Op) → Ans op → Prop} {Q : History Op Ans → Op → Prop}

lemma always_perform {R : History Op Ans → β → Prop} {past : History Op Ans} {op : Op}
    {f : Ans op → Prog Op Ans β} (hop : Q past op)
    (hf : ∀ ans, possible op ans → (f ans).Always possible Q R (⟨op, ans⟩ :: past)) :
    (perform op >>= f).Always possible Q R past :=
  ⟨hop, hf⟩

lemma Always.imp {R R' : History Op Ans → α → Prop} {past : History Op Ans} {p : Prog Op Ans α}
    (h : p.Always possible Q R past) (hR : ∀ past a, R past a → R' past a) :
    p.Always possible Q R' past := by
  induction p generalizing past with
  | ret a => exact hR past a h
  | step op next ih => exact ⟨h.1, fun ans han => ih ans (h.2 ans han)⟩

lemma Always.bind {R : History Op Ans → α → Prop} {R' : History Op Ans → β → Prop}
    {past : History Op Ans} {p : Prog Op Ans α} {f : α → Prog Op Ans β}
    (h : p.Always possible Q R past) (hf : ∀ past a, R past a → (f a).Always possible Q R' past) :
    (p >>= f).Always possible Q R' past := by
  induction p generalizing past with
  | ret a => exact hf past a h
  | step op next ih => exact ⟨h.1, fun ans han => ih ans (h.2 ans han)⟩

end Prog

variable {M : System}

def System.Possible (M : System) (op : M.Op) (ans : M.Ans op) : Prop :=
  ∃ e s, (M.act e op s).1 = ans

def Entry.done (entry : Entry M) : (op : M.Op) × M.Ans op := ⟨entry.op, entry.ans⟩

section
variable {α : Type} (s : State M) (i : Nat) (c : M.Call)

def State.past : History M.Op M.Ans :=
  (s.log.filter fun entry => entry.thread == i).map Entry.done

lemma State.past_perform_self (e : M.Env) (op : M.Op) :
    (s.perform i c e op).past i = ⟨op, (M.act e op s.shared).1⟩ :: s.past i := by
  simp [State.past, Entry.done]

lemma State.past_perform_ne {i j : Nat} (hij : i ≠ j) (c : M.Call) (e : M.Env) (op : M.Op) :
    (s.perform i c e op).past j = s.past j := by
  simp [State.past, hij]

lemma State.past_perform_suffix (j : Nat) (c : M.Call) (e : M.Env) (op : M.Op) :
    s.past j <:+ (s.perform i c e op).past j := by
  by_cases hij : i = j
  · subst hij
    rw [State.past_perform_self]
    exact List.suffix_cons _ _
  · exact ⟨[], (State.past_perform_ne s hij c e op).symm⟩

lemma State.firstOf_perform {f : (op : M.Op) × M.Ans op → Option α} {s : State M}
    {j : Nat} {a : α} (h : firstOf f (s.past j) = some a) (i : Nat) (c : M.Call) (e : M.Env)
    (op : M.Op) : firstOf f ((s.perform i c e op).past j) = some a := by
  obtain ⟨l, heq⟩ := s.past_perform_suffix i j c e op
  rw [← heq]
  exact firstOf_append h l

def State.Runs : Prop :=
  ∀ entry ∈ s.log, entry.thread = i → entry.call = c

lemma State.mem_past {s : State M} {i : Nat} {x : (op : M.Op) × M.Ans op} :
    x ∈ s.past i ↔ ∃ entry ∈ s.log, entry.thread = i ∧ entry.done = x := by
  simp [State.past, and_assoc]

/-- Every answer in the log is one that the operation gave to what it met. -/
def State.Answered : Prop :=
  ∀ entry ∈ s.log, ∃ shared, entry.ans = (M.act entry.env entry.op shared).1

lemma State.Answered.perform {s : State M} (h : s.Answered) (i : Nat) (c : M.Call) (e : M.Env)
    (op : M.Op) : (s.perform i c e op).Answered := by
  intro en hen
  rcases List.mem_cons.mp hen with rfl | hen
  · exact ⟨s.shared, rfl⟩
  · exact h en hen

def acts (view : M.Call → (op : M.Op) → M.Ans op → α) (log : List (Entry M)) : List (Nat × α) :=
  log.map fun entry => (entry.thread, view entry.call entry.op entry.ans)

section
variable {view : M.Call → (op : M.Op) → M.Ans op → α}

lemma exists_acts_iff {s : State M} {i : Nat} {c : M.Call} (hca : s.Runs i c) (P : α → Prop) :
    (∃ x ∈ acts view s.log, x.1 = i ∧ P x.2) ↔ ∃ d ∈ s.past i, P (view c d.1 d.2) := by
  constructor
  · rintro ⟨x, hx, hi, hP⟩
    obtain ⟨en, hen, rfl⟩ := List.mem_map.mp hx
    rw [hca en hen hi] at hP
    exact ⟨en.done, State.mem_past.mpr ⟨en, hen, hi, rfl⟩, hP⟩
  · rintro ⟨d, hd, hP⟩
    obtain ⟨en, hen, hi, rfl⟩ := State.mem_past.mp hd
    refine ⟨_, List.mem_map_of_mem hen, hi, ?_⟩
    rwa [hca en hen hi]

lemma not_acted {α : Type} {view : M.Call → (op : M.Op) → M.Ans op → α} {s : State M} {i : Nat}
    {c : M.Call} {kind : M.Op → Bool} (hca : s.Runs i c) (hpa : Without kind (s.past i))
    {P : α → Prop} (hP : ∀ op ans, P (view c op ans) → kind op = true) :
    ¬ ∃ x ∈ acts view s.log, x.1 = i ∧ P x.2 := by
  intro hx
  obtain ⟨d, hd, hac⟩ := (exists_acts_iff hca P).mp hx
  cases (hpa d hd).symm.trans (hP d.1 d.2 hac)

lemma mem_acts_of_past {s : State M} {i : Nat} {c : M.Call} (hca : s.Runs i c)
    {d : (op : M.Op) × M.Ans op} (hd : d ∈ s.past i) : (i, view c d.1 d.2) ∈ acts view s.log := by
  obtain ⟨en, hen, hi, rfl⟩ := State.mem_past.mp hd
  refine List.mem_map.mpr ⟨en, hen, ?_⟩
  rw [hi, hca en hen hi]
  rfl

end

end

/-- What holds of a world in which the calls did what their programs say. -/
structure Traced (Q : M.Call → History M.Op M.Ans → M.Op → Prop)
    (R : M.Call → History M.Op M.Ans → M.Result → Prop) (w : World M) : Prop where
  calls : ∀ entry ∈ w.state.log, ∃ p, w.threads[entry.thread]? = some (entry.call, p)
  always : ∀ i c p, w.threads[i]? = some (c, p) →
    Prog.Always M.Possible (Q c) (R c) (w.state.past i) p

namespace Traced
variable {Q : M.Call → History M.Op M.Ans → M.Op → Prop}
  {R : M.Call → History M.Op M.Ans → M.Result → Prop} {w : World M}

lemma initial (s : M.Shared) : Traced Q R (World.initial s) where
  calls _ hen := absurd hen List.not_mem_nil
  always _ _ _ hp := by simp [World.initial] at hp

lemma past_of_length_le (h : Traced Q R w) {i : Nat} (hi : w.threads.length ≤ i) :
    w.state.past i = [] := by
  rw [List.eq_nil_iff_forall_not_mem]
  intro x hx
  obtain ⟨en, hen, rfl, -⟩ := State.mem_past.mp hx
  obtain ⟨p, hp⟩ := h.calls en hen
  have hlt := (List.getElem?_eq_some_iff.mp hp).1
  omega

lemma start (hQ : ∀ c, (M.body c).Always M.Possible (Q c) (R c) []) (h : Traced Q R w)
    (c : M.Call) : Traced Q R (w.step (.start c)) where
  calls entry hen := by
    obtain ⟨p, hp⟩ := h.calls entry hen
    have hlt := (List.getElem?_eq_some_iff.mp hp).1
    exact ⟨p, (List.getElem?_append_left hlt).trans hp⟩
  always i c' p hp := by
    simp only [World.step] at hp ⊢
    by_cases hi : i < w.threads.length
    · rw [List.getElem?_append_left hi] at hp
      exact h.always i c' p hp
    have hi' : i = w.threads.length := by
      have hlt := (List.getElem?_eq_some_iff.mp hp).1
      simp only [List.length_append, List.length_singleton] at hlt
      omega
    subst hi'
    rw [List.getElem?_concat_length, Option.some.injEq, Prod.mk.injEq] at hp
    obtain ⟨rfl, rfl⟩ := hp
    rw [h.past_of_length_le (Nat.le_refl _)]
    exact hQ c

lemma advance (h : Traced Q R w) (i : Nat) (e : M.Env) : Traced Q R (w.step (.advance i e)) := by
  simp only [World.step]
  split
  · rename_i c op next hi
    have hlt := (List.getElem?_eq_some_iff.mp hi).1
    constructor
    · intro en hen
      rcases List.mem_cons.mp hen with rfl | hen
      · exact ⟨_, List.getElem?_set_self hlt⟩
      obtain ⟨p, hp⟩ := h.calls en hen
      by_cases heq : en.thread = i
      · simp_all
      · exact ⟨p, (List.getElem?_set_ne (Ne.symm heq)).trans hp⟩
    · intro j c' p hp
      by_cases hji : j = i
      · subst hji
        rw [List.getElem?_set_self hlt, Option.some.injEq, Prod.mk.injEq] at hp
        obtain ⟨rfl, rfl⟩ := hp
        rw [State.past_perform_self]
        exact (h.always j c _ hi).2 _ ⟨e, w.state.shared, rfl⟩
      · rw [List.getElem?_set_ne (Ne.symm hji)] at hp
        rw [State.past_perform_ne _ (Ne.symm hji)]
        exact h.always j c' p hp
  · exact h

lemma call_eq (h : Traced Q R w) {i : Nat} {c : M.Call} {p : Prog M.Op M.Ans M.Result}
    (hi : w.threads[i]? = some (c, p)) : w.state.Runs i c := by
  intro en hen hth
  obtain ⟨p', hp'⟩ := h.calls en hen
  rw [hth, hi, Option.some.injEq, Prod.mk.injEq] at hp'
  exact hp'.1.symm

lemma run {ok : State M → Nat → M.Call → M.Env → M.Op → Prop} {I : State M → Prop}
    (hQ : ∀ c, (M.body c).Always M.Possible (Q c) (R c) [])
    (hs : ∀ {s i c e op}, I s → ok s i c e op →
      s.Runs i c → Q c (s.past i) op →
      I (s.perform i c e op))
    {es : List (Event M)} (h : Traced Q R w) (hI : I w.state)
    (hes : Runs.Guarded World.step (World.Meets ok) w es) :
    Traced Q R (Runs.exec World.step w es) ∧ I (Runs.exec World.step w es).state := by
  refine hes.invariant (I := fun w => Traced Q R w ∧ I w.state) ?_ ⟨h, hI⟩
  rintro w ev ⟨h, hI⟩ hok
  cases ev with
  | start c => exact ⟨h.start hQ c, hI⟩
  | advance i e =>
    refine ⟨h.advance i e, ?_⟩
    simp only [World.step]
    split
    · rename_i c op next hi
      exact hs hI (hok c op next hi) (h.call_eq hi) (h.always i c _ hi).1
    · exact hI

end Traced

end Interleaving
