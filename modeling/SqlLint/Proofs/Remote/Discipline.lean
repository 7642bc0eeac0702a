import SqlLint.Proofs.Workspace.Ending

/-!
# How the dbt server is called

A call of an endpoint asks whether the server is well and then posts, and each of the two can fail in
many ways.  `Endpoint.client` is the call as a client sees it: which request it tries next depends on
nothing but what arrived of the answers to those before.  The calls of the service are the runs of this
client on the machine (`call_eq_run`), so that requests which never reach a server, because none
listens or their address makes no URL, are told from requests that are not made.

`Endpoint.Disciplined` says what is tried and how the answers decide the result, and
`Remote.calls_disciplined` that every call is disciplined, and what an invocation makes of it.
-/

namespace SqlLint

open Text

/-! ## What the server answers -/

namespace RemoteCode

/-- A kind of error keeps the number of the server. -/
@[simp] theorem number_ofNumber (n : Int) : (ofNumber n).number = n := by
  grind [ofNumber, number]

end RemoteCode

namespace Remote

/-- The error object of an answer; its number may be zero. -/
structure ErrorObject where
  code : Int
  message : String
  detail : Option String

namespace ErrorObject

/-- The error that an error object tells. -/
def error? (o : ErrorObject) : Option RemoteError :=
  if o.code = 0 then none else some ⟨.ofNumber o.code, o.message, o.detail⟩

/-- The error object that is written in an answer. -/
def ofDraft? (d : Draft) : Option ErrorObject := do
  let r ← d.record? ["code", "message", "data"]
  let code ← r.required "code" Draft.int64?
  let message ← r.defaulted "message" Draft.text? ""
  let data ← r.defaulted "data" (Draft.memberValues? (Draft.maxDepth - 3)) []
  let detail := (Members.ofList data).lookup "error"
  let words : Json → String
    | .str s => s
    | other => other.compress
  return ⟨code, message, detail.map words⟩

end ErrorObject

/-- What an endpoint answers: its result and an error object, each if it is there. -/
structure Body (α : Type) where
  result : Option α
  error : Option ErrorObject

/-- An endpoint: its name, the field in which it answers and how that field is read. -/
structure Endpoint (α : Type) where
  name : String
  field : String
  read : Draft → Option α

variable {α β : Type}

/-- There is no error object, or its number is zero. -/
def Body.IsFine (b : Body α) : Prop := ∀ o, b.error = some o → o.code = 0

namespace Endpoint

/-- The endpoint that lints. -/
def lint : Endpoint Json := ⟨"lint", "result", Draft.settleAt? (Draft.maxDepth - 1)⟩

/-- The endpoint that formats. -/
def format : Endpoint String := ⟨"format", "sql", Draft.text?⟩

/-- The body that an answer is by the schema of an endpoint. -/
def body? (e : Endpoint α) (text : String) : Option (Body α) := do
  let r ← (← Draft.parse? text).record? [e.field, "error"]
  let result ← r.defaulted e.field (Draft.nullable? e.read) none
  let error ← r.defaulted "error" (Draft.nullable? ErrorObject.ofDraft?) none
  return ⟨result, error⟩

end Endpoint

theorem ofDraft?_eq (d : Draft) :
    RemoteError.ofDraft? d = (ErrorObject.ofDraft? d).map ErrorObject.error? := by
  unfold RemoteError.ofDraft? ErrorObject.ofDraft?
  simp only [Option.bind_eq_bind, Option.map_bind, Function.comp_def]
  rfl

theorem nullable?_map (f : α → β) (read : Draft → Option α) (d : Draft) :
    d.nullable? (fun d => (read d).map f) = (d.nullable? read).map (·.map f) := by
  cases d <;> simp [Draft.nullable?, Function.comp_def]

theorem defaulted_map (f : α → β) (r : Record) (name : String) (read : Draft → Option α)
    (default : α) :
    r.defaulted name (fun d => (read d).map f) (f default) =
      (r.defaulted name read default).map f := by
  unfold Record.defaulted
  cases r.fields.lookup name <;> rfl

/-- An answer is read as a body whose error object tells its error. -/
theorem readAnswer?_eq (e : Endpoint α) (text : String) :
    readAnswer? e.field e.read text =
      (e.body? text).map fun b => (b.result, b.error.bind ErrorObject.error?) := by
  have error (r : Record) : r.defaulted "error" (Draft.nullable? RemoteError.ofDraft?) none =
      (r.defaulted "error" (Draft.nullable? ErrorObject.ofDraft?) none).map
        (·.map ErrorObject.error?) := by
    rw [← defaulted_map]
    congr 1
    funext d
    rw [← nullable?_map]
    congr 1
    exact funext ofDraft?_eq
  have told (o : Option ErrorObject) :
      (o.map ErrorObject.error?).join = o.bind ErrorObject.error? := by
    cases o <;> rfl
  unfold readAnswer? Endpoint.body?
  simp only [error, Option.bind_eq_bind, Option.map_bind, Function.comp_def, Option.bind_map, told]
  rfl

/-! ## Clients -/

/-- A request that is tried: its method, its URL if its address makes one, the milliseconds that it is
given, and its body. -/
structure Trial where
  method : String
  url : Option Url
  timeout : Nat
  body : String

/-- A trial and the status and the body that arrived for it.  Nothing arrives when the connection is
refused or dropped, or when the answer takes too long. -/
structure Exchange where
  trial : Trial
  arrived : Option (Nat × List UInt8)

/-- A client: it is done, or it tries a request and goes on with what arrives. -/
inductive Client (β : Type) where
  | done (result : β)
  | tries (t : Trial) (next : Option (Nat × List UInt8) → Client β)

namespace Trial

/-- The request as a server gets it. -/
def request? (t : Trial) : Option HttpRequest := t.url.map fun u => ⟨t.method, target u, t.body⟩

/-- What arrives when the trial is made, and the machine after it. -/
def make (t : Trial) (m : Machine) : Option (Nat × List UInt8) × Machine :=
  match t.request? with
  | none => (none, m)
  | some request => m.send t.timeout request

/-- The question whether a server is well. -/
def health (s : DbtSettings) : Trial :=
  ⟨"GET", Url.parse? (s.address ++ "/health"), healthTimeout, ""⟩

/-- The post of a request. -/
def post (s : DbtSettings) (u : Url) (r : RemoteRequest) : Trial :=
  ⟨"POST", some u, s.timeout.toNat, r.sql.getD ""⟩

end Trial

/-- A client that is run on a machine: what it tried, its result and the machine after it. -/
def Client.run : Client β → Machine → List Exchange × β × Machine
  | .done result, m => ([], result, m)
  | .tries t next, m =>
    let (arrived, m) := t.make m
    let (log, result, m) := (next arrived).run m
    (⟨t, arrived⟩ :: log, result, m)

/-- What arrived says that the server is well. -/
def saysWell (arrived : Option (Nat × List UInt8)) : Bool := arrived.any (·.1 = 200)

namespace Endpoint

/-- The body that arrived, if one did and the schema reads it. -/
def arrived? (e : Endpoint α) (arrived : Option (Nat × List UInt8)) : Option (Body α) :=
  arrived.bind fun (_, bytes) => e.body? (Utf8.lossyString bytes)

/-- The result of a call whose post was made, by what arrived for it. -/
def verdict (e : Endpoint α) (s : DbtSettings) (post : Option (Nat × List UInt8)) :
    Except RemoteError (Option α) :=
  outcome s ((e.arrived? post).map fun b => (b.result, b.error.bind ErrorObject.error?))

/-- A call of an endpoint. -/
def client (e : Endpoint α) (s : DbtSettings) (r : RemoteRequest) :
    Client (Except RemoteError (Option α)) :=
  .tries (.health s) fun health =>
    if saysWell health then
      match s.url? e.name r with
      | none => .done (.error (.unreachable s.address))
      | some u => .tries (.post s u r) fun post => .done (e.verdict s post)
    else .done (.error .notRegistered)

/-- What a call tries on a machine. -/
def log (e : Endpoint α) (m : Machine) (s : DbtSettings) (r : RemoteRequest) : List Exchange :=
  ((e.client s r).run m).1

end Endpoint

theorem health_eq_make (m : Machine) (s : DbtSettings) :
    Remote.health m s = (saysWell ((Trial.health s).make m).1, ((Trial.health s).make m).2) := by
  unfold Remote.health Trial.make Trial.request? Trial.health
  cases Url.parse? (s.address ++ "/health") <;> rfl

/-- The calls of the service are the runs of the client. -/
theorem call_eq_run (e : Endpoint α) (m : Machine) (s : DbtSettings) (r : RemoteRequest) :
    call m s e.name r (readAnswer? e.field e.read) = ((e.client s r).run m).2 := by
  unfold call Endpoint.client Client.run
  rw [health_eq_make]
  dsimp only
  cases saysWell ((Trial.health s).make m).1 with
  | false => rfl
  | true =>
    cases s.url? e.name r with
    | none => rfl
    | some u =>
      have read : readAnswer? e.field e.read = fun text =>
          (e.body? text).map fun b => (b.result, b.error.bind ErrorObject.error?) :=
        funext (readAnswer?_eq e)
      simp only [Bool.not_true, Bool.false_eq_true, if_false, if_true, read]
      simp only [Client.run, Remote.post, Trial.make, Trial.request?, Trial.post, Endpoint.verdict,
        Endpoint.arrived?, Option.map_some, Option.bind_map, Option.map_bind, Function.comp_def]

/-! ## What a machine makes of a client -/

/-- What arrives for a trial from a server, if there is one. -/
def Trial.reply? (t : Trial) (serve : Option (HttpRequest → HttpReply)) :
    Option (Nat × List UInt8) :=
  match serve, t.request? with
  | some serve, some request => (serve request).arrived? t.timeout
  | _, _ => none

/-- The machine `m` came to be `m'` by the trials of a log: what arrived is what its server replied, and
the server was sent these requests and no others. -/
structure LogOf (m : Machine) (log : List Exchange) (m' : Machine) : Prop where
  serve : m'.serve = m.serve
  arrived : ∀ x ∈ log, x.arrived = x.trial.reply? m.serve
  requests : m'.requests =
    m.requests ++ if m.serve.isSome then log.filterMap (·.trial.request?) else []

theorem LogOf.nil (m : Machine) : LogOf m [] m where
  serve := rfl
  arrived x hx := by cases hx
  requests := by simp

/-- A trial gets the reply of the server, which is sent the request if there is one. -/
theorem Trial.make_eq (t : Trial) (m : Machine) :
    t.make m = (t.reply? m.serve,
      { m with requests := m.requests ++ if m.serve.isSome then t.request?.toList else [] }) := by
  obtain ⟨files, directory, environment, start, serve, released, processes, nextProcess, calls,
    requests, clock⟩ := m
  unfold Trial.make Trial.reply? Machine.send
  cases t.request? with
  | none => cases serve <;> simp
  | some request => cases serve <;> simp

/-- One trial is one entry of the log. -/
theorem LogOf.cons {m m' : Machine} {log : List Exchange} (t : Trial)
    (h : LogOf (t.make m).2 log m') : LogOf m (⟨t, (t.make m).1⟩ :: log) m' := by
  rw [t.make_eq m] at h ⊢
  refine ⟨h.serve, ?_, ?_⟩
  · intro x hx
    obtain rfl | later := List.mem_cons.1 hx
    · rfl
    · exact h.arrived x later
  · rw [h.requests]
    cases m.serve with
    | none => simp
    | some serve => cases sent : t.request? <;> simp [sent]

/-- Whatever the client, its log tells what the machine did. -/
theorem Client.logOf_run (c : Client β) (m : Machine) : LogOf m (c.run m).1 (c.run m).2.2 := by
  induction c generalizing m with
  | done result => exact .nil m
  | tries t next ih => exact .cons t (ih (t.make m).1 (t.make m).2)

/-! ## The discipline of a call -/

/-- A log says that the server was asked whether it is well and answered with the status 200. -/
def WasWell (log : List Exchange) : Prop :=
  ∃ x ∈ log, x.trial.method = "GET" ∧ ∃ bytes, x.arrived = some (200, bytes)

namespace Endpoint

/-- A log says that the post was answered, with any status, and that the schema reads the body. -/
def Answered (e : Endpoint α) (log : List Exchange) (b : Body α) : Prop :=
  ∃ x ∈ log, x.trial.method = "POST" ∧
    ∃ status bytes, x.arrived = some (status, bytes) ∧ e.body? (Utf8.lossyString bytes) = some b

/-- A log says that the post was answered with an error object whose number is not zero. -/
def Told (e : Endpoint α) (log : List Exchange) (o : ErrorObject) : Prop :=
  ∃ b, e.Answered log b ∧ b.error = some o ∧ o.code ≠ 0

/-- The discipline of a call, between what it tries and its result. -/
structure Disciplined (e : Endpoint α) (s : DbtSettings) (r : RemoteRequest) (log : List Exchange)
    (result : Except RemoteError β) : Prop where
  /-- One request asks whether the server is well; the post follows just when it is, once, if the
  address of the endpoint makes a URL. -/
  tried : ∃ health rest, log = ⟨.health s, health⟩ :: rest ∧
    (rest = [] ∧ (saysWell health = false ∨ s.url? e.name r = none) ∨
      saysWell health = true ∧ ∃ u post, s.url? e.name r = some u ∧ rest = [⟨.post s u r, post⟩])
  /-- The call succeeds just when the server is well and answers the post without an error. -/
  ok_iff : (∃ found, result = .ok found) ↔ WasWell log ∧ ∃ b, e.Answered log b ∧ b.IsFine
  /-- An error that the server tells is the error of the call. -/
  told : ∀ f o, result = .error f → e.Told log o →
    f = ⟨.ofNumber o.code, o.message, o.detail⟩ ∧ f.code.number = o.code
  /-- Without such an error the server counts as one that cannot be reached. -/
  untold : ∀ f, result = .error f → (¬ ∃ o, e.Told log o) → f.code = .unreachable

variable {e : Endpoint α} {s : DbtSettings} {r : RemoteRequest} {log : List Exchange}
  {result : Except RemoteError (Option α)}

/-- The ways a call can go, whatever arrives. -/
inductive Goes (e : Endpoint α) (s : DbtSettings) (r : RemoteRequest) :
    List Exchange → Except RemoteError (Option α) → Prop
  | unwell {health : Option (Nat × List UInt8)} (unwell : saysWell health = false) :
    Goes e s r [⟨.health s, health⟩] (.error .notRegistered)
  | astray {health : Option (Nat × List UInt8)} (well : saysWell health = true)
    (astray : s.url? e.name r = none) :
    Goes e s r [⟨.health s, health⟩] (.error (.unreachable s.address))
  | posted {health : Option (Nat × List UInt8)} {u : Url} (post : Option (Nat × List UInt8))
    (well : saysWell health = true) (url : s.url? e.name r = some u) :
    Goes e s r [⟨.health s, health⟩, ⟨.post s u r, post⟩] (e.verdict s post)

theorem goes_run (e : Endpoint α) (m : Machine) (s : DbtSettings) (r : RemoteRequest) :
    e.Goes s r (e.log m s r) ((e.client s r).run m).2.1 := by
  unfold log client Client.run
  dsimp only
  cases well : saysWell ((Trial.health s).make m).1 with
  | false => exact .unwell well
  | true =>
    cases url : s.url? e.name r with
    | none => exact .astray well url
    | some u =>
      simp only [if_true, Client.run]
      exact .posted _ well url

theorem saysWell_iff {arrived : Option (Nat × List UInt8)} :
    saysWell arrived = true ↔ ∃ bytes, arrived = some (200, bytes) := by
  rcases arrived with _ | ⟨status, bytes⟩
  · simp [saysWell]
  · simp [saysWell]

/-- Only the trial that asks whether the server is well counts for that. -/
theorem wasWell_cons_iff {health : Option (Nat × List UInt8)} {rest : List Exchange}
    (posts : ∀ x ∈ rest, x.trial.method = "POST") :
    WasWell (⟨.health s, health⟩ :: rest) ↔ saysWell health = true := by
  rw [saysWell_iff]
  constructor
  · rintro ⟨x, hx, get, arrived⟩
    obtain rfl | hx := List.mem_cons.1 hx
    · exact arrived
    · rw [posts x hx] at get
      exact absurd get (by decide)
  · exact fun arrived => ⟨_, List.mem_cons_self, rfl, arrived⟩

theorem health_ne_post : (Trial.health s).method ≠ "POST" := by
  simp [Trial.health]

theorem not_answered_health {health : Option (Nat × List UInt8)} {b : Body α} :
    ¬ e.Answered [⟨.health s, health⟩] b := by
  rintro ⟨x, hx, post, -⟩
  obtain rfl := List.mem_singleton.1 hx
  exact health_ne_post post

theorem not_told_health {health : Option (Nat × List UInt8)} {o : ErrorObject} :
    ¬ e.Told [⟨.health s, health⟩] o :=
  fun ⟨_, answered, _⟩ => not_answered_health answered

theorem answered_post_iff {health post : Option (Nat × List UInt8)} {u : Url} {b : Body α} :
    e.Answered [⟨.health s, health⟩, ⟨.post s u r, post⟩] b ↔ e.arrived? post = some b := by
  constructor
  · rintro ⟨x, hx, method, status, bytes, arrived, read⟩
    obtain rfl | hx := List.mem_cons.1 hx
    · exact absurd method health_ne_post
    · obtain rfl := List.mem_singleton.1 hx
      obtain rfl : post = some (status, bytes) := arrived
      exact read
  · intro read
    obtain ⟨⟨status, bytes⟩, arrived, read⟩ := Option.bind_eq_some_iff.1 read
    exact ⟨_, List.mem_cons_of_mem _ List.mem_cons_self, rfl, status, bytes, arrived, read⟩

/-- The verdict on an answer, by its body. -/
theorem verdict_eq (post : Option (Nat × List UInt8)) :
    e.verdict s post = match e.arrived? post with
      | none => .error (.unreachable s.address)
      | some b => match b.error.bind ErrorObject.error? with
        | none => .ok b.result
        | some f => .error f := by
  unfold verdict
  cases e.arrived? post with
  | none => rfl
  | some b =>
    dsimp only [Option.map_some]
    cases b.error.bind ErrorObject.error? <;> rfl

theorem error?_eq_none_iff {b : Body α} :
    b.error.bind ErrorObject.error? = none ↔ b.IsFine := by
  unfold Body.IsFine ErrorObject.error?
  cases b.error <;> simp

theorem error?_eq_some_iff {b : Body α} {f : RemoteError} :
    b.error.bind ErrorObject.error? = some f ↔
      ∃ o, b.error = some o ∧ o.code ≠ 0 ∧ f = ⟨.ofNumber o.code, o.message, o.detail⟩ := by
  unfold ErrorObject.error?
  cases b.error <;> simp [eq_comm]

theorem exists_verdict_iff {post : Option (Nat × List UInt8)} :
    (∃ found, e.verdict s post = .ok found) ↔ ∃ b, e.arrived? post = some b ∧ b.IsFine := by
  rw [verdict_eq]
  cases e.arrived? post with
  | none => simp
  | some b =>
    cases told : b.error.bind ErrorObject.error? with
    | none => simpa [told] using error?_eq_none_iff.1 told
    | some f =>
      have wrong : ¬ b.IsFine := fun fine => by
        rw [error?_eq_none_iff.2 fine] at told
        cases told
      simpa [told] using wrong

/-- However a call goes, it is disciplined. -/
theorem Goes.disciplined (h : e.Goes s r log result) : e.Disciplined s r log result := by
  cases h with
  | unwell unwell =>
    refine ⟨⟨_, [], rfl, .inl ⟨rfl, .inl unwell⟩⟩, ?_, ?_, ?_⟩
    · simp [not_answered_health]
    · exact fun f o _ told => absurd told not_told_health
    · rintro f ⟨⟩ -
      rfl
  | astray well astray =>
    refine ⟨⟨_, [], rfl, .inl ⟨rfl, .inr astray⟩⟩, ?_, ?_, ?_⟩
    · simp [not_answered_health]
    · exact fun f o _ told => absurd told not_told_health
    · rintro f ⟨⟩ -
      rfl
  | @posted health u post well url =>
    have wasWell : WasWell [⟨.health s, health⟩, ⟨.post s u r, post⟩] :=
      (wasWell_cons_iff (by simp [Trial.post])).2 well
    refine ⟨⟨_, _, rfl, .inr ⟨well, u, post, url, rfl⟩⟩, ?_, ?_, ?_⟩
    · simp only [wasWell, answered_post_iff, true_and]
      exact exists_verdict_iff
    · rintro f o failed ⟨b, answered, error, nonzero⟩
      rw [verdict_eq, answered_post_iff.1 answered] at failed
      dsimp only at failed
      rw [error?_eq_some_iff.2 ⟨o, error, nonzero, rfl⟩] at failed
      cases failed
      exact ⟨rfl, RemoteCode.number_ofNumber o.code⟩
    · intro f failed untold
      rw [verdict_eq] at failed
      cases read : e.arrived? post with
      | none =>
        rw [read] at failed
        cases failed
        rfl
      | some b =>
        have fine : b.IsFine := fun o error => Decidable.byContradiction fun nonzero =>
          untold ⟨o, b, answered_post_iff.2 read, error, nonzero⟩
        rw [read] at failed
        dsimp only at failed
        rw [error?_eq_none_iff.2 fine] at failed
        cases failed

end Endpoint

/-! ## Calls and invocations -/

/-- How a call of an endpoint goes on a machine: with discipline, by what its server replies. -/
def Endpoint.Calls (e : Endpoint α) (m : Machine) (s : DbtSettings) (r : RemoteRequest)
    (called : Except RemoteError β × Machine) : Prop :=
  LogOf m (e.log m s r) called.2 ∧ e.Disciplined s r (e.log m s r) called.1

theorem Endpoint.calls_call (e : Endpoint α) (m : Machine) (s : DbtSettings) (r : RemoteRequest) :
    e.Calls m s r (call m s e.name r (readAnswer? e.field e.read)) := by
  rw [call_eq_run]
  exact ⟨(e.client s r).logOf_run m, (e.goes_run m s r).disciplined⟩

/-- What is done with the result of a call does not touch its discipline. -/
theorem Endpoint.Disciplined.map {e : Endpoint α} {s : DbtSettings} {r : RemoteRequest}
    {log : List Exchange} {γ : Type} {result : Except RemoteError β}
    (h : e.Disciplined s r log result) (f : β → γ) : e.Disciplined s r log (result.map f) := by
  obtain ⟨tried, ok_iff, told, untold⟩ := h
  cases result with
  | error f => exact ⟨tried, by simpa [Except.map] using ok_iff, by simpa [Except.map] using told,
      by simpa [Except.map] using untold⟩
  | ok found => exact ⟨tried, by simpa [Except.map] using ok_iff, by simp [Except.map],
      by simp [Except.map]⟩

theorem Endpoint.Calls.map {e : Endpoint α} {m : Machine} {s : DbtSettings} {r : RemoteRequest}
    {γ : Type} {called : Except RemoteError β × Machine} (h : e.Calls m s r called) (f : β → γ) :
    e.Calls m s r (called.1.map f, called.2) :=
  ⟨h.1, h.2.map f⟩

theorem calls_lint (m : Machine) (s : DbtSettings) (r : RemoteRequest) :
    Endpoint.lint.Calls m s r (Remote.lint m s r) := by
  have calls : Endpoint.lint.Calls m s r
      (call m s "lint" r (readAnswer? "result" (Draft.settleAt? (Draft.maxDepth - 1)))) :=
    Endpoint.lint.calls_call m s r
  unfold Remote.lint
  generalize call m s "lint" r (readAnswer? "result" (Draft.settleAt? (Draft.maxDepth - 1))) =
    called at calls ⊢
  exact calls.map _

theorem calls_format (m : Machine) (s : DbtSettings) (r : RemoteRequest) :
    Endpoint.format.Calls m s r (Remote.format m s r) :=
  Endpoint.format.calls_call m s r

end Remote

/-- The result of a run and the workspace after it show how a call of the dbt server went: a run whose
call failed did not succeed and has no lines, and the server gets no other requests. -/
structure RunResult.Shows {β : Type} (result : RunResult) (w : Workspace)
    (called : Except RemoteError β × Machine) : Prop where
  failed : ∀ f, called.1 = .error f → result.succeeded = false ∧ result.lines = []
  succeeded : ∀ found, called.1 = .ok found → result.succeeded = true
  requests : w.machine.requests = called.2.requests

/-- The same for the call that an invocation of a kind makes. -/
def RunResult.ShowsCall (result : RunResult) (w : Workspace) (kind : CommandKind) (m : Machine)
    (s : DbtSettings) (r : RemoteRequest) : Prop :=
  match kind with
  | .lint => result.Shows w (Remote.lint m s r)
  | .fix => result.Shows w (Remote.format m s r)

namespace Workspace

theorem requests_note (w : Workspace) (lines : List String) :
    (w.note lines).machine.requests = w.machine.requests := by
  obtain ⟨files, noted⟩ := w.machine_note lines
  rw [noted]

theorem requests_remoteFailed (w : Workspace) (c : Config) (f : RemoteError) :
    (w.remoteFailed c f).machine.requests = w.machine.requests := by
  unfold remoteFailed
  dsimp only
  split
  · exact requests_note w _
  · split
    · exact requests_note w _
    · exact requests_note w _

/-- A run at the dbt server shows how its call went. -/
theorem showsCall_runRemote (w : Workspace) (c : Config) (kind : CommandKind) (t : Target) :
    (w.runRemote c kind t).1.ShowsCall (w.runRemote c kind t).2 kind
      (w.note (remoteAnnouncement c kind (remoteRequest c t))).machine c.settings.dbt
      (remoteRequest c t) := by
  cases kind with
  | lint =>
    unfold runRemote RunResult.ShowsCall
    dsimp only
    generalize w.note (remoteAnnouncement c .lint (remoteRequest c t)) = v
    obtain ⟨f | found, machine⟩ := Remote.lint v.machine c.settings.dbt (remoteRequest c t)
    · exact ⟨fun _ _ => ⟨rfl, rfl⟩, by simp, requests_remoteFailed _ c f⟩
    · exact ⟨by simp, fun _ _ => rfl, requests_note _ _⟩
  | fix =>
    unfold runRemote RunResult.ShowsCall
    dsimp only
    generalize w.note (remoteAnnouncement c .fix (remoteRequest c t)) = v
    obtain ⟨f | found, machine⟩ := Remote.format v.machine c.settings.dbt (remoteRequest c t)
    · exact ⟨fun _ _ => ⟨rfl, rfl⟩, by simp, requests_remoteFailed _ c f⟩
    · exact ⟨by simp, fun _ _ => rfl, requests_note _ _⟩

end Workspace

/-- Every call of the dbt server is disciplined, whatever the server does, and an invocation shows how
its call went. -/
theorem Remote.calls_disciplined (w : Workspace) (i : Invocation) (t : Target)
    (enabled : w.settings.dbt.enabled = true) (valid : i.validate = .ok t) :
    (∀ m s r, Endpoint.lint.Calls m s r (Remote.lint m s r) ∧
      Endpoint.format.Calls m s r (Remote.format m s r)) ∧
    ∃ result w' files, w.invoke i = .ok (result, w') ∧
      result.ShowsCall w' i.kind { w.machine with files } w.settings.dbt
        (Workspace.remoteRequest w.config t) := by
  refine ⟨fun m s r => ⟨calls_lint m s r, calls_format m s r⟩, ?_⟩
  obtain ⟨files, noted⟩ := w.machine_note
    (Workspace.remoteAnnouncement w.config i.kind (Workspace.remoteRequest w.config t))
  have shows := w.showsCall_runRemote w.config i.kind t
  rw [noted] at shows
  have begun : w.begin i = .ok (.over (w.runRemote w.config i.kind t).1,
      (w.runRemote w.config i.kind t).2) := by
    rw [Workspace.begin_eq, valid]
    exact if_pos enabled
  refine ⟨(w.runRemote w.config i.kind t).1, (w.runRemote w.config i.kind t).2, files, ?_, shows⟩
  rw [Workspace.invoke, begun]
  rfl

/-- A server that is well and says, with a status of its own, that it cannot compile. -/
def uncompiledServer (request : HttpRequest) : HttpReply :=
  if request.method = "GET" then .answer 200 [] 5
  else .answer 500 (Utf8.encode "\x7b\"error\": \x7b\"code\": 1\x7d\x7d") 5

/-- A workspace whose texts go to that server. -/
def uncompiledWorkspace : Workspace where
  machine := { serve := some uncompiledServer }
  config := { settings := { dbt := { enabled := true } } }

theorem Remote.calls_disciplined_uncompiled :
    uncompiledWorkspace.settings.dbt.enabled = true ∧
    (⟨.fix, [], some (.buffer "select 1" none)⟩ : Invocation).validate =
      .ok (.buffer "select 1" none) ∧
    ∃ result w' files,
      uncompiledWorkspace.invoke ⟨.fix, [], some (.buffer "select 1" none)⟩ = .ok (result, w') ∧
      result.ShowsCall w' .fix { uncompiledWorkspace.machine with files }
        uncompiledWorkspace.settings.dbt
        (Workspace.remoteRequest uncompiledWorkspace.config (.buffer "select 1" none)) :=
  ⟨rfl, rfl, (Remote.calls_disciplined uncompiledWorkspace
    ⟨.fix, [], some (.buffer "select 1" none)⟩ (.buffer "select 1" none) rfl rfl).2⟩

end SqlLint
