import NativeLoader.Engine.Scripted

/-!
# What an engine relays

An engine is asked to do one `Operation` after another (`Engine.run`); what it should then do is a conversation with the
functions behind its entry points (`EntryPoints.Conversation`). Each operation makes one call, of its own entry point
and with the bytes of its request, and tells what that answered (`Operation.Tells`); or its request holds a NUL, and it
makes no call and says so (`Operation.Refused`). One operation does the one or the other (`relays_or_refuses`), so a run
is a conversation, and every conversation is a run (`run_eq_iff`); code that records where it is called, and as what,
records the calls of the conversation, each at the place of its own symbol (`of_conversation_recorded`). An operation
that fails changes nothing for the others, whether it was refused (`run_refused`) or its reply cannot be read
(`run_mended`).
-/

namespace NativeLoader

/-! ## Requests and replies -/

/-- The first NUL of some bytes is at a position. -/
def FirstNul (bs : List UInt8) (position : Nat) : Prop := bs[position]? = some 0 ∧ 0 ∉ bs.take position

/-- A first NUL is where a search finds one. -/
theorem firstNul_iff {bs : List UInt8} {position : Nat} : FirstNul bs position ↔ 0 ∈ bs ∧ position = bs.idxOf 0 := by
  induction bs generalizing position with
  | nil => simp [FirstNul]
  | cons b bs ih =>
    by_cases hb : b = 0
    · cases position <;> simp [FirstNul, hb]
    · have hidx : (b :: bs).idxOf 0 = bs.idxOf 0 + 1 := by
        rw [List.idxOf_cons, beq_eq_false_iff_ne.mpr hb]
        rfl
      rw [hidx]
      cases position with
      | zero => simp [FirstNul, hb]
      | succ i => simpa [FirstNul, Ne.symm hb] using ih

/-- A text is relayed with its bytes, all of them. -/
theorem CText.ofText_eq_ok_iff {request : String} {text : CText} :
    CText.ofText request = .ok text ↔ text.bytes = Text.bytes request := by
  rw [CText.ofText, CText.ofBytes]
  obtain ⟨bs, hbs⟩ := text
  constructor
  · intro h
    split at h
    · cases h
    · cases h
      rfl
  · rintro rfl
    rw [dif_neg hbs]

/-- A text is refused for its first NUL. -/
theorem CText.ofText_eq_error_iff {request : String} {failure : EngineFailure} :
    CText.ofText request = .error failure ↔
      ∃ position, FirstNul (Text.bytes request) position ∧ failure = .nulInRequest position := by
  rw [CText.ofText, CText.ofBytes]
  constructor
  · intro h
    split at h
    · next hin =>
      cases h
      exact ⟨_, firstNul_iff.mpr ⟨hin, rfl⟩, rfl⟩
    · cases h
  · rintro ⟨position, hnul, rfl⟩
    obtain ⟨hin, rfl⟩ := firstNul_iff.mp hnul
    rw [dif_pos hin]

/-- What a reply is read as: nothing exactly if there is none, a text exactly if its bytes are those before the first
NUL, and else a failure. -/
structure Reads (reply : Option (List UInt8)) (result : Except EngineFailure (Option String)) : Prop where
  nothing_iff : result = .ok none ↔ reply = none
  text_iff : ∀ text, result = .ok (some text) ↔
    ∃ buffer, reply = some buffer ∧ Text.bytes text = buffer.takeWhile (· != 0)
  unreadable : ∀ failure, result = .error failure → ∃ buffer, reply = some buffer ∧
    failure = .replyNotText (((Text.fault? (buffer.takeWhile (· != 0))).map Text.Fault.message).getD "")

/-- An engine reads replies so. -/
theorem reads_replyText : ∀ reply : Option (List UInt8), Reads reply (replyText reply)
  | none => ⟨by simp [replyText], by simp [replyText], by simp [replyText]⟩
  | some buffer => by
    refine ⟨?_, ?_, ?_⟩
    · rw [replyText]
      cases Text.decode (buffer.takeWhile (· != 0)) <;> simp
    · intro text
      rw [replyText_eq_ok_some_iff]
      simp
    · intro failure h
      refine ⟨buffer, rfl, ?_⟩
      rw [replyText] at h
      cases hd : Text.decode (buffer.takeWhile (· != 0)) with
      | some text => simp [hd] at h
      | none =>
        simp only [hd] at h
        exact (Except.error.inj h).symm

/-- A reply is read in one way only. -/
theorem reads_iff {reply : Option (List UInt8)} {result : Except EngineFailure (Option String)} :
    Reads reply result ↔ replyText reply = result := by
  constructor
  · intro h
    have hr := reads_replyText reply
    rcases result with failure | (_ | text)
    · obtain ⟨buffer, rfl, rfl⟩ := h.unreadable failure rfl
      rcases hresult : replyText (some buffer) with failure | (_ | text)
      · obtain ⟨buffer', he, rfl⟩ := hr.unreadable failure hresult
        cases he
        rfl
      · cases hr.nothing_iff.mp hresult
      · cases (h.text_iff text).mpr ((hr.text_iff text).mp hresult)
    · exact hr.nothing_iff.mpr (h.nothing_iff.mp rfl)
    · exact (hr.text_iff text).mpr ((h.text_iff text).mp rfl)
  · rintro rfl
    exact reads_replyText reply

/-! ## Operations -/

/-- What an engine is asked to do. -/
inductive Operation where
  | createClient
  | send (client : Int32) (request : String)
  | receive (timeout : Timeout)
  | execute (request : String)
  | destroyClient (client : Int32)

/-- What comes of an operation. -/
inductive Operation.Outcome where
  | client (client : Int32)
  | sent (result : Except EngineFailure Unit)
  | reply (result : Except EngineFailure (Option String))
  | destroyed

namespace Engine

variable {σ : Type}

/-- An engine does what it is asked to. -/
def perform (e : Engine σ) : Operation → σ → Operation.Outcome × σ
  | .createClient, s => (.client (e.createClient s).1, (e.createClient s).2)
  | .send client request, s => (.sent (e.send client request s).1, (e.send client request s).2)
  | .receive timeout, s => (.reply (e.receive timeout s).1, (e.receive timeout s).2)
  | .execute request, s => (.reply (e.execute request s).1, (e.execute request s).2)
  | .destroyClient client, s => (.destroyed, e.destroyClient client s)

/-- An engine does one thing after another. -/
def run (e : Engine σ) : List Operation → σ → List Operation.Outcome × σ
  | [], s => ([], s)
  | op :: ops, s =>
    let (outcome, s) := e.perform op s
    let (outcomes, s) := e.run ops s
    (outcome :: outcomes, s)

theorem run_cons (e : Engine σ) (op : Operation) (ops : List Operation) (s : σ) :
    e.run (op :: ops) s = ((e.perform op s).1 :: (e.run ops (e.perform op s).2).1, (e.run ops (e.perform op s).2).2) :=
  rfl

end Engine

/-! ## Conversations -/

/-- What an entry point answers. -/
inductive Answer where
  | nothing
  | client (client : Int32)
  | reply (buffer : Option (List UInt8))

/-- The function behind an entry point takes a call in a state, answers it and leaves another state. -/
inductive EntryPoints.Takes {σ : Type} (points : EntryPoints σ) (s : σ) : EngineCall → Answer → σ → Prop
  | create : points.Takes s .create (.client (points.createClient s).1) (points.createClient s).2
  | send {client : Int32} {bytes : List UInt8} (request : CText) (hbytes : request.bytes = bytes) :
    points.Takes s (.send client bytes) .nothing (points.send client request s)
  | receive {timeout : Float} :
    points.Takes s (.receive timeout) (.reply (points.receive timeout s).1) (points.receive timeout s).2
  | execute {bytes : List UInt8} (request : CText) (hbytes : request.bytes = bytes) :
    points.Takes s (.execute bytes) (.reply (points.execute request s).1) (points.execute request s).2
  | destroy {client : Int32} : points.Takes s (.destroy client) .nothing (points.destroyClient client s)

namespace Operation

/-- The call that an operation makes. -/
def call : Operation → EngineCall
  | createClient => .create
  | send client request => .send client (Text.bytes request)
  | receive timeout => .receive timeout.toFloat
  | execute request => .execute (Text.bytes request)
  | destroyClient client => .destroy client

/-- What comes of an operation whose call is answered. -/
inductive Tells : Operation → Answer → Outcome → Prop
  | createClient {client : Int32} : Tells .createClient (.client client) (.client client)
  | send {client : Int32} {request : String} : Tells (.send client request) .nothing (.sent (.ok ()))
  | receive {timeout : Timeout} {reply : Option (List UInt8)} {result : Except EngineFailure (Option String)}
    (reads : Reads reply result) : Tells (.receive timeout) (.reply reply) (.reply result)
  | execute {request : String} {reply : Option (List UInt8)} {result : Except EngineFailure (Option String)}
    (reads : Reads reply result) : Tells (.execute request) (.reply reply) (.reply result)
  | destroyClient {client : Int32} : Tells (.destroyClient client) .nothing .destroyed

/-- What comes of an operation whose request holds a NUL. -/
inductive Refused : Operation → Outcome → Prop
  | send {client : Int32} {request : String} {position : Nat} (first : FirstNul (Text.bytes request) position) :
    Refused (.send client request) (.sent (.error (.nulInRequest position)))
  | execute {request : String} {position : Nat} (first : FirstNul (Text.bytes request) position) :
    Refused (.execute request) (.reply (.error (.nulInRequest position)))

end Operation

/-- Operations one after another, the calls that are made of the entry points, and what comes of the operations. -/
inductive EntryPoints.Conversation {σ : Type} (points : EntryPoints σ) :
    σ → List Operation → List EngineCall → List Operation.Outcome → σ → Prop
  | done {s : σ} : points.Conversation s [] [] [] s
  | relayed {s u t : σ} {op : Operation} {answer : Answer} {outcome : Operation.Outcome} {ops : List Operation}
    {calls : List EngineCall} {outcomes : List Operation.Outcome} (takes : points.Takes s op.call answer u)
    (tells : op.Tells answer outcome) (rest : points.Conversation u ops calls outcomes t) :
    points.Conversation s (op :: ops) (op.call :: calls) (outcome :: outcomes) t
  | refused {s t : σ} {op : Operation} {outcome : Operation.Outcome} {ops : List Operation} {calls : List EngineCall}
    {outcomes : List Operation.Outcome} (refused : op.Refused outcome)
    (rest : points.Conversation s ops calls outcomes t) :
    points.Conversation s (op :: ops) calls (outcome :: outcomes) t

/-- The place that a call is of. -/
def EntryAddresses.of (a : EntryAddresses) : EngineCall → Address
  | .create => a.createClient
  | .send _ _ => a.send
  | .receive _ => a.receive
  | .execute _ => a.execute
  | .destroy _ => a.destroyClient

namespace Code

variable {σ : Type}

/-- The same code, which also records each call and the place that it was of. -/
def recorded (code : Code σ) : Code (σ × List (Address × EngineCall)) where
  createClient address s :=
    ((code.createClient address s.1).1, (code.createClient address s.1).2, s.2 ++ [(address, .create)])
  send address client request s :=
    (code.send address client request s.1, s.2 ++ [(address, .send client request.bytes)])
  receive address timeout s :=
    ((code.receive address timeout s.1).1, (code.receive address timeout s.1).2, s.2 ++ [(address, .receive timeout)])
  execute address request s :=
    ((code.execute address request s.1).1, (code.execute address request s.1).2,
      s.2 ++ [(address, .execute request.bytes)])
  destroyClient address client s := (code.destroyClient address client s.1, s.2 ++ [(address, .destroy client)])

/-- The same code, whose replies are replaced by others. -/
def mended (code : Code σ) (mend : σ → Option (List UInt8) → Option (List UInt8)) : Code σ :=
  { code with
    receive := fun address timeout s =>
      (mend s (code.receive address timeout s).1, (code.receive address timeout s).2)
    execute := fun address request s =>
      (mend s (code.execute address request s).1, (code.execute address request s).2) }

end Code

namespace Engine

variable {σ : Type}

/-- A refused operation is not heard of by the engine. -/
theorem perform_of_refused {op : Operation} {outcome : Operation.Outcome} (e : Engine σ) (s : σ)
    (h : op.Refused outcome) : e.perform op s = (outcome, s) := by
  cases h with
  | send first =>
    have hrefused := CText.ofText_eq_error_iff.mpr ⟨_, first, rfl⟩
    simp only [perform, send_of_refused hrefused]
  | execute first =>
    have hrefused := CText.ofText_eq_error_iff.mpr ⟨_, first, rfl⟩
    simp only [perform, execute_of_refused hrefused]

/-- An operation whose call is taken tells what that answers. -/
theorem perform_of_takes {e : Engine σ} {op : Operation} {s u : σ} {answer : Answer} {outcome : Operation.Outcome}
    (takes : e.points.Takes s op.call answer u) (tells : op.Tells answer outcome) : e.perform op s = (outcome, u) := by
  generalize hcall : op.call = call at takes
  cases tells with
  | createClient =>
    cases hcall
    cases takes
    rfl
  | send =>
    cases hcall
    cases takes with
    | send request hbytes => simp only [perform, send, CText.ofText_eq_ok_iff.mpr hbytes]
  | receive reads =>
    cases hcall
    cases takes
    simp only [perform, receive, reads_iff.mp reads]
  | execute reads =>
    cases hcall
    cases takes with
    | execute request hbytes => simp only [perform, execute, CText.ofText_eq_ok_iff.mpr hbytes, reads_iff.mp reads]
  | destroyClient =>
    cases hcall
    cases takes
    rfl

/-- An operation makes its call, or is refused. -/
theorem relays_or_refuses (e : Engine σ) (s : σ) : ∀ op : Operation,
    (∃ answer, e.points.Takes s op.call answer (e.perform op s).2 ∧ op.Tells answer (e.perform op s).1) ∨
      op.Refused (e.perform op s).1
  | .createClient => Or.inl ⟨_, .create, .createClient⟩
  | .send client request => by
    cases htext : CText.ofText request with
    | ok text =>
      simp only [perform, send, htext]
      exact Or.inl ⟨_, .send text (CText.ofText_eq_ok_iff.mp htext), .send⟩
    | error failure =>
      obtain ⟨position, first, rfl⟩ := CText.ofText_eq_error_iff.mp htext
      simp only [perform, send, htext]
      exact Or.inr (.send first)
  | .receive timeout => Or.inl ⟨_, .receive, .receive (reads_replyText _)⟩
  | .execute request => by
    cases htext : CText.ofText request with
    | ok text =>
      simp only [perform, execute, htext]
      exact Or.inl ⟨_, .execute text (CText.ofText_eq_ok_iff.mp htext), .execute (reads_replyText _)⟩
    | error failure =>
      obtain ⟨position, first, rfl⟩ := CText.ofText_eq_error_iff.mp htext
      simp only [perform, execute, htext]
      exact Or.inr (.execute first)
  | .destroyClient client => Or.inl ⟨_, .destroy, .destroyClient⟩

/-- What an engine does is what a conversation allows, one operation after another. -/
theorem run_eq_iff {e : Engine σ} {ops : List Operation} {s t : σ} {outcomes : List Operation.Outcome} :
    e.run ops s = (outcomes, t) ↔ ∃ calls, e.points.Conversation s ops calls outcomes t := by
  induction ops generalizing s outcomes with
  | nil =>
    constructor
    · intro h
      cases h
      exact ⟨[], .done⟩
    · rintro ⟨calls, h⟩
      cases h
      rfl
  | cons op ops ih =>
    constructor
    · intro h
      rw [run_cons] at h
      obtain ⟨rfl, rfl⟩ := Prod.mk.inj h
      obtain ⟨calls, hrest⟩ := ih.mp rfl
      rcases relays_or_refuses e s op with ⟨answer, takes, tells⟩ | refused
      · exact ⟨_, .relayed takes tells hrest⟩
      · have hs : (e.perform op s).2 = s := by rw [perform_of_refused e s refused]
        rw [hs] at hrest ⊢
        exact ⟨_, .refused refused hrest⟩
    · rintro ⟨calls, h⟩
      cases h with
      | relayed takes tells rest => rw [run_cons, perform_of_takes takes tells, ih.mpr ⟨_, rest⟩]
      | refused refused rest => rw [run_cons, perform_of_refused e s refused, ih.mpr ⟨_, rest⟩]

/-- A refused operation only adds its own outcome to those of the others. -/
theorem run_refused {op : Operation} {outcome : Operation.Outcome} (e : Engine σ) (before after : List Operation)
    (s : σ) (h : op.Refused outcome) : e.run (before ++ op :: after) s =
      ((e.run (before ++ after) s).1.insertIdx before.length outcome, (e.run (before ++ after) s).2) := by
  induction before generalizing s with
  | nil =>
    rw [List.nil_append, run_cons, perform_of_refused e s h]
    rfl
  | cons first before ih =>
    rw [List.cons_append, List.cons_append, run_cons, run_cons, ih]
    rfl

end Engine

/-! ## Calls recorded -/

namespace Code

variable {σ : Type} {code : Code σ} {a : EntryAddresses}

/-- A call that is taken is recorded, with the place of its own entry point. -/
theorem takes_recorded_iff {v w : σ × List (Address × EngineCall)} {call : EngineCall} {answer : Answer} :
    (code.recorded.entryPoints a).Takes v call answer w ↔
      (code.entryPoints a).Takes v.1 call answer w.1 ∧ w.2 = v.2 ++ [(a.of call, call)] := by
  constructor
  · intro h
    cases h with
    | create => exact ⟨.create, rfl⟩
    | send request hbytes => exact ⟨.send request hbytes, by rw [← hbytes]; rfl⟩
    | receive => exact ⟨.receive, rfl⟩
    | execute request hbytes => exact ⟨.execute request hbytes, by rw [← hbytes]; rfl⟩
    | destroy => exact ⟨.destroy, rfl⟩
  · rintro ⟨h, hlog⟩
    obtain ⟨s, log⟩ := v
    obtain ⟨u, log'⟩ := w
    subst hlog
    cases h with
    | create => exact .create
    | send request hbytes =>
      subst hbytes
      exact .send request rfl
    | receive => exact .receive
    | execute request hbytes =>
      subst hbytes
      exact .execute request rfl
    | destroy => exact .destroy

/-- In a conversation with code that records its calls, it records those of the conversation. -/
theorem of_conversation_recorded {v w : σ × List (Address × EngineCall)} {ops : List Operation}
    {calls : List EngineCall} {outcomes : List Operation.Outcome}
    (h : (code.recorded.entryPoints a).Conversation v ops calls outcomes w) :
    (code.entryPoints a).Conversation v.1 ops calls outcomes w.1 ∧
      w.2 = v.2 ++ calls.map fun call => (a.of call, call) := by
  induction h with
  | done => exact ⟨.done, (List.append_nil _).symm⟩
  | relayed takes tells rest ih =>
    obtain ⟨htakes, hlog⟩ := takes_recorded_iff.mp takes
    obtain ⟨hrest, hlogs⟩ := ih
    refine ⟨.relayed htakes tells hrest, ?_⟩
    rw [hlogs, hlog, List.append_assoc]
    rfl
  | refused refused rest ih => exact ⟨.refused refused ih.1, ih.2⟩

/-- The calls of a conversation can be recorded. -/
theorem conversation_recorded {s t : σ} {ops : List Operation} {calls : List EngineCall}
    {outcomes : List Operation.Outcome} (h : (code.entryPoints a).Conversation s ops calls outcomes t) :
    ∀ log, (code.recorded.entryPoints a).Conversation (s, log) ops calls outcomes
      (t, log ++ calls.map fun call => (a.of call, call)) := by
  induction h with
  | done =>
    intro log
    rw [List.map_nil, List.append_nil]
    exact .done
  | @relayed s u t op answer outcome ops calls outcomes takes tells rest ih =>
    intro log
    have hrest := ih (log ++ [(a.of op.call, op.call)])
    rw [List.append_assoc] at hrest
    exact .relayed (takes_recorded_iff.mpr ⟨takes, rfl⟩) tells hrest
  | refused refused rest ih =>
    intro log
    exact .refused refused (ih log)

end Code

/-! ## Replies replaced -/

/-- A reply was not a text. -/
def Operation.Outcome.Unreadable (outcome : Operation.Outcome) : Prop :=
  ∃ detail, outcome = .reply (.error (.replyNotText detail))

namespace Engine

variable {σ : Type}

/-- Replacing replies that cannot be read changes nothing but what comes of the operations that they are for. -/
theorem perform_mended {code : Code σ} {a : EntryAddresses} {l : Library}
    {mend : σ → Option (List UInt8) → Option (List UInt8)}
    (hmend : ∀ s reply text, Reads reply (.ok text) → mend s reply = reply) (op : Operation) (s : σ) :
    let e : Engine σ := ⟨l, code.entryPoints a⟩
    let e' : Engine σ := ⟨l, (code.mended mend).entryPoints a⟩
    (e'.perform op s).2 = (e.perform op s).2 ∧
      ((e.perform op s).1.Unreadable ∨ (e'.perform op s).1 = (e.perform op s).1) := by
  intro e e'
  have hread : ∀ reply, (∃ detail, replyText reply = .error (.replyNotText detail)) ∨ mend s reply = reply := by
    intro reply
    cases hr : replyText reply with
    | ok text => exact Or.inr (hmend s reply text (reads_iff.mpr hr))
    | error failure =>
      obtain ⟨buffer, -, rfl⟩ := (reads_replyText reply).unreadable failure hr
      exact Or.inl ⟨_, rfl⟩
  cases op with
  | createClient => exact ⟨rfl, Or.inr rfl⟩
  | send client request =>
    simp only [perform, send]
    cases CText.ofText request <;> exact ⟨rfl, Or.inr rfl⟩
  | receive timeout =>
    refine ⟨rfl, ?_⟩
    rcases hread (code.receive a.receive timeout.toFloat s).1 with ⟨detail, hr⟩ | hr
    · exact Or.inl ⟨detail, by simp only [e, perform, receive, Code.entryPoints, hr]⟩
    · exact Or.inr (by simp only [e, e', perform, receive, Code.mended, Code.entryPoints, hr])
  | execute request =>
    simp only [perform, execute]
    cases CText.ofText request with
    | error failure => exact ⟨rfl, Or.inr rfl⟩
    | ok text =>
      refine ⟨rfl, ?_⟩
      rcases hread (code.execute a.execute text s).1 with ⟨detail, hr⟩ | hr
      · exact Or.inl ⟨detail, by simp only [e, Code.entryPoints, hr]⟩
      · exact Or.inr (by simp only [e, e', Code.mended, Code.entryPoints, hr])
  | destroyClient client => exact ⟨rfl, Or.inr rfl⟩

/-- The operations whose replies can be read fare the same, whatever is made of the others' replies. -/
theorem run_mended {code : Code σ} {a : EntryAddresses} {l : Library}
    {mend : σ → Option (List UInt8) → Option (List UInt8)}
    (hmend : ∀ s reply text, Reads reply (.ok text) → mend s reply = reply) (ops : List Operation) (s : σ) :
    let e : Engine σ := ⟨l, code.entryPoints a⟩
    let e' : Engine σ := ⟨l, (code.mended mend).entryPoints a⟩
    (e'.run ops s).2 = (e.run ops s).2 ∧ ∀ (i : Nat) (outcome : Operation.Outcome),
      (e.run ops s).1[i]? = some outcome → ¬outcome.Unreadable → (e'.run ops s).1[i]? = some outcome := by
  intro e e'
  induction ops generalizing s with
  | nil => exact ⟨rfl, fun i outcome h _ => h⟩
  | cons op ops ih =>
    obtain ⟨hstate, houtcome⟩ := perform_mended hmend (l := l) op s
    obtain ⟨hlast, hothers⟩ := ih (e.perform op s).2
    rw [run_cons, run_cons, hstate]
    refine ⟨hlast, ?_⟩
    intro i outcome h hreadable
    cases i with
    | zero =>
      obtain rfl := Option.some.inj h
      exact congrArg some (houtcome.resolve_left hreadable)
    | succ i => exact hothers i outcome h hreadable

/-- **Faithful relaying.** An engine made of a library calls the places at which the library exports `td_create_client_id`,
`td_send`, `td_receive`, `td_execute` and `td_destroy_client_id`, with its prefix. What comes of operations and the
state they leave are those of a conversation with the functions there, and of no other; its calls are those that reach
the code, in that order, each at the place of its own entry point. An operation that is refused only adds its own
outcome to the others. Where replies that cannot be read are replaced, nothing changes but what comes of the operations
that they are for. -/
theorem relays_of_ofLibrary {code : Code σ} {l : Library} {e : Engine σ} (h : ofLibrary code l = .ok e) :
    ∃ a : EntryAddresses, a.AreExportedBy l ∧
      (∀ ops s outcomes t, e.run ops s = (outcomes, t) ↔
        ∃ calls, (code.entryPoints a).Conversation s ops calls outcomes t) ∧
      (∃ e', ofLibrary code.recorded l = .ok e' ∧ ∀ ops s log outcomes t log',
        e'.run ops (s, log) = (outcomes, t, log') ↔ ∃ calls, (code.entryPoints a).Conversation s ops calls outcomes t ∧
          log' = log ++ calls.map fun call => (a.of call, call)) ∧
      (∀ before op after outcome s, op.Refused outcome → e.run (before ++ op :: after) s =
        ((e.run (before ++ after) s).1.insertIdx before.length outcome, (e.run (before ++ after) s).2)) ∧
      ∀ mend, (∀ s reply text, Reads reply (.ok text) → mend s reply = reply) →
        ∃ e', ofLibrary (code.mended mend) l = .ok e' ∧ ∀ ops s, (e'.run ops s).2 = (e.run ops s).2 ∧
          ∀ (i : Nat) (outcome : Operation.Outcome), (e.run ops s).1[i]? = some outcome → ¬outcome.Unreadable →
            (e'.run ops s).1[i]? = some outcome := by
  obtain ⟨a, ha, rfl⟩ := ofLibrary_eq_ok_iff.mp h
  have hrecorded : ofLibrary code.recorded l = .ok ⟨l, code.recorded.entryPoints a⟩ :=
    ofLibrary_eq_ok_iff.mpr ⟨a, ha, rfl⟩
  refine ⟨a, ha, ?_, ⟨_, hrecorded, ?_⟩, ?_, ?_⟩
  · intro ops s outcomes t
    exact run_eq_iff
  · intro ops s log outcomes t log'
    rw [run_eq_iff]
    constructor
    · rintro ⟨calls, hc⟩
      exact ⟨calls, Code.of_conversation_recorded hc⟩
    · rintro ⟨calls, hc, rfl⟩
      exact ⟨calls, Code.conversation_recorded hc log⟩
  · intro before op after outcome s hrefused
    exact run_refused _ before after s hrefused
  · intro mend hmend
    refine ⟨⟨l, (code.mended mend).entryPoints a⟩, ofLibrary_eq_ok_iff.mpr ⟨a, ha, rfl⟩, ?_⟩
    intro ops s
    exact run_mended hmend ops s

/-- A request with a NUL between two others; the reply to the first is not a text, or there is none in its place. The
library has the prefix of its build in front of its symbols, and exports its entry points in an order of its own. -/
theorem relays_of_ofLibrary_scripted :
    let exports := ["a_td_execute", "td_send", "a_td_destroy_client_id", "a_td_receive", "a_td_send",
      "a_td_create_client_id"]
    let l : Library := ⟨0, "new", "a_", .isolated, .searchPath, LinkerTable.imageOf exports⟩
    let s : Script := { received := [some [120]], executed := [some [0xFF, 0], some [112, 0, 7]] }
    let ops : List Operation := [.execute "q", .send 1 "a\x00b", .execute "r"]
    let mend : Script → Option (List UInt8) → Option (List UInt8) :=
      fun _ reply => if reply = some [0xFF, 0] then none else reply
    ∃ e e', ofLibrary Script.entryPoints l = .ok e ∧ ofLibrary (Script.entryPoints.mended mend) l = .ok e' ∧
      e.run ops s =
        ([.reply (.error (.replyNotText "invalid utf-8 sequence of 1 bytes from index 0")),
            .sent (.error (.nulInRequest 1)), .reply (.ok (some "p"))],
          { received := [some [120]], calls := [.execute [113], .execute [114]] }) ∧
      (e'.run ops s).2 = (e.run ops s).2 ∧ (e'.run ops s).1[2]? = some (.reply (.ok (some "p"))) := by
  intro exports l s ops mend
  let a : EntryAddresses :=
    ⟨⟨1, by decide⟩, ⟨2, by decide⟩, ⟨3, by decide⟩, ⟨4, by decide⟩, ⟨5, by decide⟩⟩
  have ha : a.AreExportedBy l := ⟨rfl, rfl, rfl, rfl, rfl⟩
  have he : ofLibrary Script.entryPoints l = .ok ⟨l, Script.entryPoints.entryPoints a⟩ :=
    ofLibrary_eq_ok_iff.mpr ⟨a, ha, rfl⟩
  have hnul : Operation.Refused (.send 1 "a\x00b") (.sent (.error (.nulInRequest 1))) :=
    .send ⟨by decide, by decide⟩
  have hmend : ∀ s reply text, Reads reply (.ok text) → mend s reply = reply := by
    intro s reply text hreads
    refine if_neg ?_
    rintro rfl
    cases reads_iff.mp hreads
  obtain ⟨-, -, -, -, hrefused, hmended⟩ := relays_of_ofLibrary he
  obtain ⟨e', he', hothers⟩ := hmended mend hmend
  refine ⟨_, e', he, he', ?_, (hothers ops s).1, (hothers ops s).2 2 _ rfl ?_⟩
  · have hrun := hrefused [.execute "q"] _ [.execute "r"] _ s hnul
    exact hrun.trans rfl
  · rintro ⟨detail, h⟩
    cases h

end Engine
end NativeLoader
