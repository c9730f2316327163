/- # Theory.Interaction -- programs as request trees, run among others

A program is a tree: it ends with a value, ends with an error, or asks for an operation and goes on
with the answer. Between two requests of one party anything the others may do can happen, and a
party may stop for good at any request. `Safe` follows a program through all answers and all
interference: what it does to the shared state stays within its guarantee, as long as the others
stay within what it relies on.

* `Prog`, `Prog.step`: programs and one answered request.
* `Safe`, `Spec`: what a program does from a state, from every state with a property.
* `Moves`, `Course`: programs that keep a property and move the state along a preorder.
* `spec_request`, `spec_bind`, `spec_attempt`, `spec_forEach`: the rules of the constructs.
* `Safe.interfere`, `Safe.step`: others act, the program acts.
* `Ends`, `alone`, `Safe.ends`: a program with nobody beside it.
* `Prog.play`, `Follows`: what a run was told, and where a memory of it can end up.
* `Config.act`, `Secure`: several parties over one state; programs that are safe alone stay safe. -/
import Mathlib.Data.List.Basic

namespace WistAgentd.Theory.Interaction
open Option
set_option autoImplicit false

/-- A program over operations `Op`; every request is answered by a value or an error. -/
inductive Prog (Op : Type) (Ans : Op → Type) (ε α : Type)
  | pure (value : α)
  | throw (error : ε)
  | request (op : Op) (next : Except ε (Ans op) → Prog Op Ans ε α)

variable {Op : Type} {Ans : Op → Type} {ε α β σ χ : Type}

variable {prog : Prog Op Ans ε α} {next : α → Prog Op Ans ε β}

namespace Prog

protected def bind : Prog Op Ans ε α → (α → Prog Op Ans ε β) → Prog Op Ans ε β
  | .pure value, next => next value
  | .throw error, _ => .throw error
  | .request op answered, next => .request op fun answer => (answered answer).bind next

instance : Monad (Prog Op Ans ε) where
  pure := Prog.pure
  bind := Prog.bind

/-- Ask for one operation; an error ends the program. -/
def call (op : Op) : Prog Op Ans ε (Ans op) :=
  .request op fun
    | .ok value => .pure value
    | .error error => .throw error

/-- Run to a value or an error. -/
def attempt : Prog Op Ans ε α → Prog Op Ans ε (Except ε α)
  | .pure value => .pure (.ok value)
  | .throw error => .pure (.error error)
  | .request op answered => .request op fun answer => (answered answer).attempt

def forEach (items : List β) (body : β → Prog Op Ans ε Unit) : Prog Op Ans ε Unit :=
  match items with
  | [] => pure ()
  | item :: rest => do body item; forEach rest body

/-- How a program ended, if it did. -/
def ended : Prog Op Ans ε α → Option (Except ε α)
  | .pure value => some (.ok value)
  | .throw error => some (.error error)
  | .request _ _ => none

/-- The operation a program waits for. -/
def asks : Prog Op Ans ε α → Option Op
  | .request op _ => some op
  | _ => none

/-- Every operation the program can ask for satisfies `ok`, as long as every answer satisfies `tells`. -/
def Uses (ok : Op → Prop) (tells : (op : Op) → Ans op → Prop) : Prog Op Ans ε α → Prop
  | .pure _ => True
  | .throw _ => True
  | .request op next => ok op ∧ (∀ error, (next (.error error)).Uses ok tells) ∧
      ∀ value, tells op value → (next (.ok value)).Uses ok tells

section Uses

variable {ok fine : Op → Prop} {tells : (op : Op) → Ans op → Prop}

theorem uses_call {op : Op} (allowed : ok op) :
    (call op : Prog Op Ans ε (Ans op)).Uses ok tells :=
  ⟨allowed, fun _ => trivial, fun _ _ => trivial⟩

theorem uses_bind (head : prog.Uses ok tells) (tail : ∀ value, (next value).Uses ok tells) :
    (prog >>= next).Uses ok tells := by
  change (prog.bind next).Uses ok tells
  induction prog with
  | pure value => exact tail value
  | throw error => trivial
  | request op answered ih =>
    exact ⟨head.1, fun error => ih _ (head.2.1 error), fun value said => ih _ (head.2.2 value said)⟩

theorem uses_attempt (inner : prog.Uses ok tells) :
    prog.attempt.Uses ok tells := by
  induction prog with
  | pure value | throw error => trivial
  | request op answered ih =>
    exact ⟨inner.1, fun error => ih _ (inner.2.1 error),
      fun value said => ih _ (inner.2.2 value said)⟩

theorem Uses.mono (weaker : ∀ op, ok op → fine op) (uses : prog.Uses ok tells) :
    prog.Uses fine tells := by
  induction prog with
  | pure value | throw error => trivial
  | request op next ih =>
    exact ⟨weaker op uses.1, fun error => ih _ (uses.2.1 error),
      fun value said => ih _ (uses.2.2 value said)⟩

end Uses

/-- A class of programs that sequencing does not leave. -/
structure Closed (K : {α : Type} → Prog Op Ans ε α → Prop) : Prop where
  pure : ∀ {α : Type} (value : α), K (.pure value)
  throw : ∀ {α : Type} (error : ε), K (.throw error : Prog Op Ans ε α)
  bind : ∀ {α β : Type} {prog : Prog Op Ans ε α} {next : α → Prog Op Ans ε β}, K prog →
    (∀ value, K (next value)) → K (prog >>= next)
  attempt : ∀ {α : Type} {prog : Prog Op Ans ε α}, K prog → K prog.attempt

/-- A request is its call, attempted, and what follows. -/
theorem request_eq (op : Op) (next : Except ε (Ans op) → Prog Op Ans ε α) :
    Prog.request op next = (call op : Prog Op Ans ε (Ans op)).attempt >>= next := by
  change _ = Prog.request op fun answer => _
  congr 1
  funext answer
  cases answer <;> rfl

/-- A program made of requests in the class is in the class. -/
theorem Closed.uses {K : {α : Type} → Prog Op Ans ε α → Prop} (closed : Closed @K) {ok : Op → Prop}
    (calls : ∀ op, ok op → K (call op)) (uses : prog.Uses ok fun _ _ => True) : K prog := by
  induction prog with
  | pure value => exact closed.pure value
  | throw error => exact closed.throw error
  | request op next ih =>
    rw [request_eq]
    refine closed.bind (closed.attempt (calls op uses.1)) fun answer => ih answer ?_
    cases answer with
    | ok value => exact uses.2.2 value trivial
    | error error => exact uses.2.1 error

/-- Every value the program can return satisfies `fact`, whatever it is answered. -/
def Returns (fact : α → Prop) : Prog Op Ans ε α → Prop
  | .pure value => fact value
  | .throw _ => True
  | .request _ next => ∀ answer, (next answer).Returns fact

theorem returns_bind {fact : β → Prop} (tail : ∀ value, (next value).Returns fact) :
    (prog >>= next).Returns fact := by
  change (prog.bind next).Returns fact
  induction prog with
  | pure value => exact tail value
  | throw error => trivial
  | request op answered ih => exact fun answer => ih answer

end Prog

/-- One condition for values, one for errors. -/
def Either (Q : α → σ → Prop) (E : ε → σ → Prop) (result : Except ε α) (s : σ) : Prop :=
  match result with
  | .ok value => Q value s
  | .error error => E error s

theorem either_of {P : σ → Prop} {s : σ} (held : P s) (result : Except ε α) :
    Either (fun _ => P) (fun _ => P) result s := by
  cases result <;> exact held

/-- How the shared state answers an operation. A `choice` settles what the operation leaves open;
`none` where that answer is not possible. -/
abbrev Perform (Op : Type) (Ans : Op → Type) (ε σ χ : Type) :=
  (op : Op) → χ → σ → Option (Except ε (Ans op) × σ)

/-- One request is answered. -/
def Prog.step (perform : Perform Op Ans ε σ χ) (prog : Prog Op Ans ε α) (choice : χ) (s : σ) :
    Option (Prog Op Ans ε α × σ) :=
  match prog with
  | .request op next => (perform op choice s).map fun answered => (next answered.1, answered.2)
  | _ => none

/-- A party in its surroundings: how it is answered, which answers are considered, what the others
may do between its requests and what it may do itself. -/
structure Setting (Op : Type) (Ans : Op → Type) (ε σ χ : Type) where
  perform : Perform Op Ans ε σ χ
  allowed : Op → χ → σ → Prop
  rely : σ → σ → Prop
  guar : σ → σ → Prop
  rely_refl : ∀ s, rely s s
  rely_trans : ∀ {a b c}, rely a b → rely b c → rely a c

/-- From `s`, through every interference and every answer: each request of the program stays
within the guarantee, and it ends in `Q` or `E`. -/
def Safe (S : Setting Op Ans ε σ χ) (Q : α → σ → Prop) (E : ε → σ → Prop) :
    Prog Op Ans ε α → σ → Prop
  | .pure value, s => ∀ t, S.rely s t → Q value t
  | .throw error, s => ∀ t, S.rely s t → E error t
  | .request op next, s => ∀ t, S.rely s t → ∀ choice answer u, S.allowed op choice t →
      S.perform op choice t = some (answer, u) → S.guar t u ∧ Safe S Q E (next answer) u

/-- `Safe` from every state with `P`. -/
def Spec (S : Setting Op Ans ε σ χ) (P : σ → Prop) (prog : Prog Op Ans ε α) (Q : α → σ → Prop)
    (E : ε → σ → Prop) : Prop :=
  ∀ s, P s → Safe S Q E prog s

/-- What the others do does not change whether `P` holds. -/
def Stable (S : Setting Op Ans ε σ χ) (P : σ → Prop) : Prop := ∀ s t, P s → S.rely s t → P t

variable {s : σ}

section Safe

variable {S : Setting Op Ans ε σ χ} {Q Q' : α → σ → Prop} {E E' : ε → σ → Prop}

/-- The others may act first. -/
theorem Safe.interfere {t : σ} (safe : Safe S Q E prog s) (others : S.rely s t) :
    Safe S Q E prog t := by
  cases prog with
  | pure value | throw error | request op next =>
    exact fun u more => safe u (S.rely_trans others more)

/-- One answered request. -/
theorem Safe.step {op : Op} {next : Except ε (Ans op) → Prog Op Ans ε α} {t : σ} {choice : χ}
    {answer : Except ε (Ans op)} (safe : Safe S Q E (.request op next) s)
    (allowed : S.allowed op choice s) (answered : S.perform op choice s = some (answer, t)) :
    S.guar s t ∧ Safe S Q E (next answer) t :=
  safe s (S.rely_refl s) choice answer t allowed answered

theorem Safe.weaken (safe : Safe S Q E prog s) (post : ∀ value s, Q value s → Q' value s)
    (error : ∀ err s, E err s → E' err s) :
    Safe S Q' E' prog s := by
  induction prog generalizing s with
  | pure value => exact fun t others => post value t (safe t others)
  | throw err => exact fun t others => error err t (safe t others)
  | request op next ih =>
    intro t others choice answer u allowed answered
    obtain ⟨kept, later⟩ := safe t others choice answer u allowed answered
    exact ⟨kept, ih answer later⟩

theorem Safe.bind {R : β → σ → Prop} (head : Safe S Q E prog s)
    (tail : ∀ value s, Q value s → Safe S R E (next value) s) :
    Safe S R E (prog >>= next) s := by
  change Safe S R E (prog.bind next) s
  induction prog generalizing s with
  | pure value => exact tail value s (head s (S.rely_refl s))
  | throw error => exact head
  | request op answered ih =>
    intro t others choice answer u allowed ran
    obtain ⟨kept, later⟩ := head t others choice answer u allowed ran
    exact ⟨kept, ih answer later⟩

theorem Safe.attempt {R : Except ε α → σ → Prop}
    (inner : Safe S (fun value => R (.ok value)) (fun error => R (.error error)) prog s) :
    Safe S R E prog.attempt s := by
  induction prog generalizing s with
  | pure value | throw error => exact inner
  | request op answered ih =>
    intro t others choice answer u allowed ran
    obtain ⟨kept, later⟩ := inner t others choice answer u allowed ran
    exact ⟨kept, ih answer later⟩

/-- What is returned satisfies what every returned value does. -/
theorem Safe.returning {fact : α → Prop} (safe : Safe S Q E prog s) (returns : prog.Returns fact) :
    Safe S (fun value s => Q value s ∧ fact value) E prog s := by
  induction prog generalizing s with
  | pure value => exact fun t others => ⟨safe t others, returns⟩
  | throw error => exact safe
  | request op next ih =>
    intro t others choice answer u allowed answered
    obtain ⟨kept, later⟩ := safe t others choice answer u allowed answered
    exact ⟨kept, ih answer later (returns answer)⟩

end Safe

section Spec

variable {S : Setting Op Ans ε σ χ} {P A : σ → Prop} {Q B : α → σ → Prop} {E F : ε → σ → Prop}

theorem spec_pure {value : α} (stable : Stable S P) (holds : ∀ s, P s → Q value s) :
    Spec S P (pure value) Q E :=
  fun s held t others => holds t (stable s t held others)

theorem spec_throw {error : ε} (stable : Stable S P) (holds : ∀ s, P s → E error s) :
    Spec S P (.throw error) Q E :=
  fun s held t others => holds t (stable s t held others)

theorem spec_bind {R : β → σ → Prop} (head : Spec S P prog Q E)
    (tail : ∀ value, Spec S (Q value) (next value) R E) :
    Spec S P (prog >>= next) R E :=
  fun s held => (head s held).bind fun value t => tail value t

theorem spec_attempt {R : Except ε α → σ → Prop}
    (inner : Spec S P prog (fun value => R (.ok value)) fun error => R (.error error)) :
    Spec S P prog.attempt R E :=
  fun s held => (inner s held).attempt

theorem spec_weaken (inner : Spec S A prog B F) (pre : ∀ s, P s → A s)
    (post : ∀ value s, B value s → Q value s) (error : ∀ err s, F err s → E err s) :
    Spec S P prog Q E :=
  fun s held => (inner s (pre s held)).weaken post error

theorem Spec.before (inner : Spec S A prog Q E) (pre : ∀ s, P s → A s) : Spec S P prog Q E :=
  fun s held => inner s (pre s held)

theorem Spec.after (inner : Spec S P prog B E) (post : ∀ value s, B value s → Q value s) :
    Spec S P prog Q E :=
  spec_weaken inner (fun _ => id) post fun _ _ => id

theorem Spec.failing (inner : Spec S P prog Q F) (error : ∀ err s, F err s → E err s) :
    Spec S P prog Q E :=
  spec_weaken inner (fun _ => id) (fun _ _ => id) error

theorem spec_assume {fact : Prop} (inner : fact → Spec S P prog Q E) :
    Spec S (fun s => fact ∧ P s) prog Q E :=
  fun s held => inner held.1 s held.2

/-- One request: `P` survives the others, and every considered answer is within the guarantee and
leads to the right end. -/
theorem spec_request {op : Op} {Q : Ans op → σ → Prop} (stable : Stable S P)
    (answers : ∀ s choice answer u, P s → S.allowed op choice s →
      S.perform op choice s = some (answer, u) → S.guar s u ∧ Either Q E answer u)
    (stableQ : ∀ value, Stable S (Q value)) (stableE : ∀ error, Stable S (E error)) :
    Spec S P (.call op) Q E := by
  intro s held t others choice answer u allowed ran
  obtain ⟨kept, post⟩ := answers t choice answer u (stable s t held others) allowed ran
  cases answer with
  | ok value => exact ⟨kept, fun v more => stableQ value u v post more⟩
  | error error => exact ⟨kept, fun v more => stableE error u v post more⟩

/-- What every operation of a program keeps, the program keeps. -/
theorem spec_uses {ok : Op → Prop} {tells : (op : Op) → Ans op → Prop} (stable : Stable S P)
    (keeps : ∀ s op choice answer u, P s → ok op → S.allowed op choice s →
      S.perform op choice s = some (answer, u) →
        S.guar s u ∧ P u ∧ ∀ value, answer = .ok value → tells op value)
    (uses : prog.Uses ok tells) : Spec S P prog (fun _ => P) (fun _ => P) := by
  intro s held
  induction prog generalizing s with
  | pure value | throw error => exact fun t others => stable s t held others
  | request op next ih =>
    intro t others choice answer u allowed ran
    obtain ⟨kept, after, said⟩ := keeps t op choice answer u (stable s t held others) uses.1
      allowed ran
    cases answer with
    | ok value => exact ⟨kept, ih _ (uses.2.2 value (said value rfl)) u after⟩
    | error error => exact ⟨kept, ih _ (uses.2.1 error) u after⟩

/-- A loop: the invariant speaks of the items still to come. -/
theorem spec_forEach {I : List β → σ → Prop} {body : β → Prog Op Ans ε Unit}
    (stable : Stable S (I []))
    (turn : ∀ item rest, Spec S (I (item :: rest)) (body item) (fun _ => I rest) E) :
    ∀ items, Spec S (I items) (Prog.forEach items body) (fun _ => I []) E
  | [] => spec_pure stable fun _ => id
  | item :: rest => spec_bind (turn item rest) fun _ => spec_forEach stable turn rest

end Spec

/-! ## Programs that move the state along a relation -/

section Moves

variable {S : Setting Op Ans ε σ χ} {P : σ → Prop} {R : σ → σ → Prop}

/-- The program keeps `P` and ends, either way, in a state related to the one it started in. -/
def Moves (S : Setting Op Ans ε σ χ) (P : σ → Prop) (R : σ → σ → Prop) {α : Type}
    (prog : Prog Op Ans ε α) : Prop :=
  ∀ s, P s → Safe S (fun _ t => P t ∧ R s t) (fun _ t => P t ∧ R s t) prog s

/-- `R` is a preorder the others stay within, and they do not break `P`. -/
structure Course (S : Setting Op Ans ε σ χ) (P : σ → Prop) (R : σ → σ → Prop) : Prop where
  refl : ∀ s, R s s
  trans : ∀ {a b c}, R a b → R b c → R a c
  rely : ∀ {s t}, S.rely s t → R s t
  stable : Stable S P

theorem Course.closed (course : Course S P R) : Prog.Closed (Moves S P R) where
  pure value := fun s held t others => ⟨course.stable s t held others, course.rely others⟩
  throw error := fun s held t others => ⟨course.stable s t held others, course.rely others⟩
  bind head tail := by
    intro s held
    refine (head s held).bind fun value t moved => (tail value t moved.1).weaken ?_ ?_
    · exact fun _ u more => ⟨more.1, course.trans moved.2 more.2⟩
    · exact fun _ u more => ⟨more.1, course.trans moved.2 more.2⟩
  attempt inner := fun s held => (inner s held).attempt

theorem Course.call (course : Course S P R) {op : Op}
    (answers : ∀ s choice answer u, P s → S.allowed op choice s →
      S.perform op choice s = some (answer, u) → S.guar s u ∧ P u ∧ R s u) :
    Moves S P R (.call op) := by
  intro s held t others choice answer u allowed ran
  obtain ⟨kept, after, moved⟩ := answers t choice answer u (course.stable s t held others)
    allowed ran
  have whole := course.trans (course.rely others) moved
  refine ⟨kept, ?_⟩
  cases answer with
  | ok value | error error =>
    exact fun v more => ⟨course.stable u v after more, course.trans whole (course.rely more)⟩

/-- What the relation preserves, the program does. -/
theorem Moves.spec {X : σ → Prop} (moves : Moves S P R prog) (lasting : ∀ s t, X s → R s t → X t) :
    Spec S (fun s => P s ∧ X s) prog (fun _ s => P s ∧ X s) (fun _ s => P s ∧ X s) :=
  fun s held => (moves s held.1).weaken
    (fun _ t moved => ⟨moved.1, lasting s t held.2 moved.2⟩)
    fun _ t moved => ⟨moved.1, lasting s t held.2 moved.2⟩

end Moves

/-! ## A program with nobody beside it -/

section Alone

variable {perform : Perform Op Ans ε σ χ} {allowed : Op → χ → σ → Prop}

/-- The program can end this way, each request being answered by a considered choice. -/
inductive Ends (perform : Perform Op Ans ε σ χ) (allowed : Op → χ → σ → Prop) :
    Prog Op Ans ε α → σ → Except ε α → σ → Prop
  | pure (value : α) (s : σ) : Ends perform allowed (.pure value) s (.ok value) s
  | throw (error : ε) (s : σ) : Ends perform allowed (.throw error) s (.error error) s
  | request {op : Op} {next : Except ε (Ans op) → Prog Op Ans ε α} {s t u : σ} {choice : χ}
      {answer : Except ε (Ans op)} {result : Except ε α} (fine : allowed op choice s)
      (ran : perform op choice s = some (answer, t))
      (rest : Ends perform allowed (next answer) t result u) :
      Ends perform allowed (.request op next) s result u

/-- Nobody else acts, and anything may be done. -/
def alone (perform : Perform Op Ans ε σ χ) (allowed : Op → χ → σ → Prop) :
    Setting Op Ans ε σ χ where
  perform := perform
  allowed := allowed
  rely := Eq
  guar _ _ := True
  rely_refl := fun _ => rfl
  rely_trans := Eq.trans

theorem stable_alone (P : σ → Prop) : Stable (alone perform allowed) P := by
  rintro s _ held ⟨⟩
  exact held

theorem Safe.ends {Q : α → σ → Prop} {E : ε → σ → Prop} {t : σ} {result : Except ε α}
    (safe : Safe (alone perform allowed) Q E prog s) (ends : Ends perform allowed prog s result t) :
    (∃ value, result = .ok value ∧ Q value t) ∨ ∃ error, result = .error error ∧ E error t := by
  induction ends with
  | pure value s => exact .inl ⟨value, rfl, safe s rfl⟩
  | throw error s => exact .inr ⟨error, rfl, safe s rfl⟩
  | request fine ran rest ih => exact ih (safe.step fine ran).2

/-- A program whose operations can always be answered comes to an end. -/
theorem ends_of_uses {ok : Op → Prop}
    (answered : ∀ op s, ok op → ∃ choice answer t, allowed op choice s ∧
      perform op choice s = some (answer, t)) (uses : prog.Uses ok fun _ _ => True) (s : σ) :
    ∃ result t, Ends perform allowed prog s result t := by
  induction prog generalizing s with
  | pure value => exact ⟨_, _, .pure value s⟩
  | throw error => exact ⟨_, _, .throw error s⟩
  | request op next ih =>
    obtain ⟨choice, answer, t, fine, ran⟩ := answered op s uses.1
    have later : (next answer).Uses ok fun _ _ => True := by
      cases answer with
      | ok value => exact uses.2.2 value trivial
      | error error => exact uses.2.1 error
    obtain ⟨result, u, rest⟩ := ih answer later t
    exact ⟨result, u, .request fine ran rest⟩

end Alone

/-! ## What a program was told -/

variable {μ : Type}

/-- A request and its answer. -/
abbrev Reply (Op : Type) (Ans : Op → Type) (ε : Type) := (op : Op) × Except ε (Ans op)

/-- One run: before each request the others change the state as they like. -/
def Prog.play (perform : Perform Op Ans ε σ χ) : Prog Op Ans ε α → σ → List ((σ → σ) × χ) →
    Option (List (Reply Op Ans ε) × Except ε α × σ)
  | .pure value, s, [] => some ([], .ok value, s)
  | .throw error, s, [] => some ([], .error error, s)
  | .request op next, s, (others, choice) :: rest =>
    match perform op choice (others s) with
    | some (answer, t) =>
      (play perform (next answer) t rest).map fun ended => (⟨op, answer⟩ :: ended.1, ended.2)
    | none => none
  | _, _, _ => none

/-- Whatever possible answers the program is given, it ends in `Q` or `E` of what it remembers. -/
def Follows (possible : Reply Op Ans ε → Prop) (note : μ → Reply Op Ans ε → μ) (Q : α → μ → Prop)
    (E : ε → μ → Prop) : Prog Op Ans ε α → μ → Prop
  | .pure value, m => Q value m
  | .throw error, m => E error m
  | .request op next, m => ∀ answer, possible ⟨op, answer⟩ →
      Follows possible note Q E (next answer) (note m ⟨op, answer⟩)

section Follows

variable {possible : Reply Op Ans ε → Prop} {note : μ → Reply Op Ans ε → μ} {Q R : α → μ → Prop}
  {E F : ε → μ → Prop} {m : μ}

theorem Follows.weaken (follows : Follows possible note Q E prog m)
    (post : ∀ value m, Q value m → R value m) (error : ∀ err m, E err m → F err m) :
    Follows possible note R F prog m := by
  induction prog generalizing m with
  | pure value => exact post value m follows
  | throw err => exact error err m follows
  | request op next ih => exact fun answer told => ih answer (follows answer told)

theorem follows_bind {Q : β → μ → Prop} {next : α → Prog Op Ans ε β}
    (head : Follows possible note (fun value m => Follows possible note Q E (next value) m) E prog m) :
    Follows possible note Q E (prog >>= next) m := by
  change Follows possible note Q E (prog.bind next) m
  induction prog generalizing m with
  | pure value | throw error => exact head
  | request op answered ih => exact fun answer told => ih answer (head answer told)

theorem follows_call {op : Op} {Q : Ans op → μ → Prop}
    (ok : ∀ value, possible ⟨op, .ok value⟩ → Q value (note m ⟨op, .ok value⟩))
    (failed : ∀ error, possible ⟨op, .error error⟩ → E error (note m ⟨op, .error error⟩)) :
    Follows possible note Q E (.call op) m := by
  intro answer told
  cases answer with
  | ok value => exact ok value told
  | error error => exact failed error told

/-- One request and what follows. -/
theorem follows_call_bind {op : Op} {Q : β → μ → Prop} {next : Ans op → Prog Op Ans ε β}
    (ok : ∀ value, possible ⟨op, .ok value⟩ →
      Follows possible note Q E (next value) (note m ⟨op, .ok value⟩))
    (failed : ∀ error, possible ⟨op, .error error⟩ → E error (note m ⟨op, .error error⟩)) :
    Follows possible note Q E ((.call op : Prog Op Ans ε (Ans op)) >>= next) m :=
  follows_bind (follows_call ok failed)

theorem follows_attempt {Q : Except ε α → μ → Prop}
    (inner : Follows possible note (fun value => Q (.ok value)) (fun error => Q (.error error)) prog m) :
    Follows possible note Q E prog.attempt m := by
  induction prog generalizing m with
  | pure value | throw error => exact inner
  | request op answered ih => exact fun answer told => ih answer (inner answer told)

/-- **Every run** ends as every walk does. -/
theorem Follows.play {perform : Perform Op Ans ε σ χ}
    (able : ∀ op choice s answer t, perform op choice s = some (answer, t) → possible ⟨op, answer⟩)
    {moments : List ((σ → σ) × χ)} {s final : σ} {heard : List (Reply Op Ans ε)}
    {result : Except ε α} (follows : Follows possible note Q E prog m)
    (ran : prog.play perform s moments = some (heard, result, final)) :
    Either Q E result (heard.foldl note m) := by
  induction prog generalizing m s moments heard with
  | pure value | throw error =>
    cases moments with
    | nil =>
      obtain ⟨rfl, rest⟩ := Prod.mk.inj (Option.some.inj ran)
      obtain ⟨rfl, -⟩ := Prod.mk.inj rest
      exact follows
    | cons moment rest => cases ran
  | request op next ih =>
    rcases moments with _ | ⟨⟨others, choice⟩, rest⟩
    · cases ran
    · rw [Prog.play] at ran
      cases performed : perform op choice (others s) with
      | none =>
        rw [performed] at ran
        cases ran
      | some answered =>
        obtain ⟨answer, t⟩ := answered
        rw [performed] at ran
        obtain ⟨⟨later, end_⟩, played, eq⟩ := Option.map_eq_some_iff.1 ran
        obtain ⟨rfl, rfl⟩ := Prod.mk.inj eq
        have later := ih answer (follows answer (able _ _ _ _ _ performed)) played
        exact later

end Follows

/-! ## Several parties -/

variable {ι : Type}

structure Config (ι Op : Type) (Ans : Op → Type) (ε α σ : Type) where
  state : σ
  programs : ι → Option (Prog Op Ans ε α)

variable {party : ι} {c : Config ι Op Ans ε α σ}

namespace Config

variable [DecidableEq ι]

/-- Put a program in the place of a party's, or take it away. -/
def assign (c : Config ι Op Ans ε α σ) (party : ι) (program : Option (Prog Op Ans ε α)) :
    Config ι Op Ans ε α σ :=
  { c with programs := Function.update c.programs party program }

@[simp] theorem assign_self (c : Config ι Op Ans ε α σ) (party : ι)
    (program : Option (Prog Op Ans ε α)) : (c.assign party program).programs party = program :=
  Function.update_self ..

theorem assign_ne (c : Config ι Op Ans ε α σ) {other : ι} (different : other ≠ party)
    (program : Option (Prog Op Ans ε α)) :
    (c.assign party program).programs other = c.programs other :=
  Function.update_of_ne different ..

/-- What a party waits for. -/
def asks (c : Config ι Op Ans ε α σ) (party : ι) : Option Op :=
  (c.programs party).bind Prog.asks

/-- One request of `party` is answered. -/
def act (perform : ι → Perform Op Ans ε σ χ) (c : Config ι Op Ans ε α σ) (party : ι) (choice : χ) :
    Option (Config ι Op Ans ε α σ) :=
  (c.programs party).bind fun program =>
    (program.step (perform party) choice c.state).map fun next =>
      { state := next.2, programs := Function.update c.programs party (some next.1) }

theorem act_some {perform : ι → Perform Op Ans ε σ χ} {next : Config ι Op Ans ε α σ} {choice : χ}
    (acted : c.act perform party choice = some next) :
    ∃ op rest answer, c.programs party = some (.request op rest) ∧
      perform party op choice c.state = some (answer, next.state) ∧
      next.programs = Function.update c.programs party (some (rest answer)) := by
  obtain ⟨program, running, stepped⟩ := bind_eq_some_iff.1 acted
  cases program with
  | pure value | throw error => cases stepped
  | request op rest =>
    obtain ⟨⟨after, state⟩, answered, rfl⟩ := map_eq_some_iff.1 stepped
    obtain ⟨⟨answer, _⟩, ran, ⟨⟩⟩ := map_eq_some_iff.1 answered
    exact ⟨op, rest, answer, running, ran, rfl⟩

end Config

section Secure

variable {S : ι → Setting Op Ans ε σ χ} {Q : ι → α → σ → Prop} {E : ι → ε → σ → Prop}

/-- Every running program is safe from here. -/
def Secure (S : ι → Setting Op Ans ε σ χ) (Q : ι → α → σ → Prop) (E : ι → ε → σ → Prop)
    (c : Config ι Op Ans ε α σ) : Prop :=
  ∀ party program, c.programs party = some program →
    Safe (S party) (Q party) (E party) program c.state

theorem Secure.interfere (secure : Secure S Q E c) {state : σ}
    (others : ∀ party, c.programs party ≠ none → (S party).rely c.state state) :
    Secure S Q E { c with state } := by
  intro party program running
  refine (secure party program running).interfere (others party ?_)
  rw [running]
  exact some_ne_none program

theorem Secure.stop [DecidableEq ι] (secure : Secure S Q E c) (party : ι) :
    Secure S Q E (c.assign party none) := by
  intro other program running
  by_cases same : other = party
  · subst same
    rw [Config.assign_self] at running
    cases running
  · rw [Config.assign_ne _ same] at running
    exact secure other program running

theorem Secure.start [DecidableEq ι] (secure : Secure S Q E c) {program : Prog Op Ans ε α}
    (safe : Safe (S party) (Q party) (E party) program c.state) :
    Secure S Q E (c.assign party (some program)) := by
  intro other program' running
  by_cases same : other = party
  · subst same
    rw [Config.assign_self] at running
    cases running
    exact safe
  · rw [Config.assign_ne _ same] at running
    exact secure other program' running

/-- An answered request is within the party's guarantee, and all programs stay safe. -/
theorem Secure.act [DecidableEq ι] {next : Config ι Op Ans ε α σ} (secure : Secure S Q E c)
    {choice : χ} (compatible : ∀ other t, other ≠ party → c.programs other ≠ none →
      (S party).guar c.state t → (S other).rely c.state t)
    (acted : c.act (fun p => (S p).perform) party choice = some next)
    (allowed : ∀ op, c.asks party = some op → (S party).allowed op choice c.state) :
    Secure S Q E next ∧ (S party).guar c.state next.state := by
  obtain ⟨op, rest, answer, running, ran, programs⟩ := Config.act_some acted
  have asked : c.asks party = some op := by rw [Config.asks, running]; rfl
  obtain ⟨kept, later⟩ := (secure party _ running).step (allowed op asked) ran
  refine ⟨fun other program held => ?_, kept⟩
  rw [programs] at held
  by_cases same : other = party
  · subst same
    rw [Function.update_self] at held
    cases held
    exact later
  · rw [Function.update_of_ne same] at held
    refine (secure other program held).interfere (compatible other _ same ?_ kept)
    rw [held]
    exact some_ne_none program

/-- A party that ended did so in its postcondition. -/
theorem Secure.returned (secure : Secure S Q E c) {value : α}
    (ended : (c.programs party).bind Prog.ended = some (.ok value)) : Q party value c.state := by
  obtain ⟨program, running, spent⟩ := bind_eq_some_iff.1 ended
  have safe := secure party program running
  cases program with
  | pure result =>
    obtain rfl := Except.ok.inj (some.inj spent)
    exact safe _ ((S party).rely_refl _)
  | throw error | request op next => cases spent

end Secure

end WistAgentd.Theory.Interaction
