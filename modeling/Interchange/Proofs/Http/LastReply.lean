import Interchange.Http.Invoke
import Interchange.Proofs.Table
import Mathlib.Logic.Basic
import Mathlib.Tactic.ByContra
/-!
# What a call tells of the last reply

The last reply stands in the context under `response`.  A call without a payload path leaves it out
of what it sends, and a call with one sends what the path leads to.  Hence two contexts that differ
in the last reply alone may lead to different requests, and they do so exactly if the path leads
to the whole context or into the reply: the empty path and `$` are not the same as no path.

* `SameButReply` — two contexts that differ in nothing but the last reply.
* `CallConfig.omitsReply` — the calls that send nothing of it.
* `ExternalSystem.sent_ignores_reply_iff` — these are the calls whose requests do not depend on it.
-/

namespace Interchange

/-- **Contexts that differ in the last reply alone**, which one of them may lack. -/
inductive SameButReply : Value → Value → Prop
  | objects {ms ns : List (String × Value)} (left : Table.Sorted ms) (right : Table.Sorted ns)
      (same : ∀ key, key ≠ responseKey → Table.get? key ms = Table.get? key ns) :
      SameButReply (.obj ms) (.obj ns)

/-- Whether a call sends nothing of the last reply: the whole context is sent without it, and a
path leads to something else. -/
def CallConfig.omitsReply (call : CallConfig) : Bool :=
  match call.payloadPath with
  | none => true
  | some path =>
    match Path.segments path with
    | [] => false
    | key :: _ => key ≠ responseKey

namespace ExternalSystem

/-- What a queue was sent, after a call with it. -/
def sentWith (s : ExternalSystem) (settings : CallSettings) (env : Environment) (call : CallConfig)
    (context : Value) (q : Queue) : List Request :=
  ((s.invoke Queue.send settings env call context).run q).2.sent

/-- Whether a call comes to a request at all, whatever the context: the system is active, and
address and headers can be made. -/
def Reaches (s : ExternalSystem) (env : Environment) (call : CallConfig) : Prop :=
  s.isActive = true ∧ (∃ url, callUrl s.baseUrl call.path = .ok url) ∧
    ∃ headers, s.callHeaders env call = .ok headers

end ExternalSystem

/-! ### Payloads -/

theorem erase_responseKey_eq {ms ns : List (String × Value)} (left : Table.Sorted ms)
    (right : Table.Sorted ns)
    (same : ∀ key, key ≠ responseKey → Table.get? key ms = Table.get? key ns) :
    Table.erase responseKey ms = Table.erase responseKey ns := by
  refine (left.erase _).ext (right.erase _) fun key => ?_
  by_cases here : key = responseKey
  · subst here
    rw [left.get?_erase_self, right.get?_erase_self]
  · rw [Table.get?_erase_of_ne here, Table.get?_erase_of_ne here, same key here]

/-- A call that omits the last reply has the same payload with another one. -/
theorem CallConfig.payload_eq_of_sameButReply {call : CallConfig} {c d : Value}
    (omits : call.omitsReply = true) (apart : SameButReply c d) :
    call.payload c = call.payload d := by
  obtain ⟨left, right, same⟩ := apart
  unfold omitsReply at omits
  unfold payload
  cases chosen : call.payloadPath with
  | none => simp only [erase_responseKey_eq left right same]
  | some path =>
      rw [chosen] at omits
      dsimp only at omits ⊢
      unfold Value.at?
      cases places : Path.segments path with
      | nil => simp [places] at omits
      | cons key rest =>
          rw [places] at omits
          simp only [Value.get?, Value.child?, same key (by simpa using omits)]

/-- The context that holds nothing but a value in a place of the last reply. -/
def replyHolding (rest : List String) (v : Value) : Value :=
  .obj [(responseKey, rest.foldr (fun key v => .obj [(key, v)]) v)]

theorem get?_foldr_member (rest : List String) (v : Value) :
    (rest.foldr (fun key v => Value.obj [(key, v)]) v).get? rest = some v := by
  induction rest with
  | nil => rfl
  | cons key rest ih => simpa [Value.get?, Value.child?, Table.get?] using ih

theorem sameButReply_replyHolding (rest : List String) (v w : Value) :
    SameButReply (replyHolding rest v) (replyHolding rest w) := by
  refine .objects (List.pairwise_singleton _ _) (List.pairwise_singleton _ _) fun key ne => ?_
  simp [Table.get?, ne.symm]

/-- A call that does not omit the last reply sends the whole context, or the place in the last
reply that its path names. -/
theorem CallConfig.payload_of_not_omitsReply {call : CallConfig} (shows : call.omitsReply = false) :
    (∀ context, call.payload context = context) ∨
      ∃ rest, ∀ v, call.payload (replyHolding rest v) = v := by
  unfold omitsReply at shows
  cases chosen : call.payloadPath with
  | none => simp [chosen] at shows
  | some path =>
      rw [chosen] at shows
      dsimp only at shows
      cases places : Path.segments path with
      | nil =>
          left
          intro context
          simp [payload, chosen, Value.at?, places, Value.get?, Value.ofOption]
      | cons key rest =>
          rw [places] at shows
          have isReply : key = responseKey := by simpa using shows
          right
          refine ⟨rest, fun v => ?_⟩
          simp [payload, chosen, Value.at?, places, isReply, replyHolding, Value.get?, Value.child?,
            Table.get?, get?_foldr_member, Value.ofOption]

/-! ### Bodies -/

theorem length_render_empty (name : String) :
    (Xml.Node.element name []).render.length = name.length + 3 := by
  rw [Xml.Node.render, String.length_append, String.length_append]
  have opening : "<".length = 1 := rfl
  have closing : "/>".length = 2 := rfl
  omega

theorem length_render_cons (name : String) (n : Xml.Node) (ns : List Xml.Node) :
    (Xml.Node.element name (n :: ns)).render.length =
      2 * name.length + (Xml.renderAll (n :: ns)).length + 5 := by
  simp only [Xml.Node.render, String.length_append]
  have opening : "<".length = 1 := rfl
  have closing : "</".length = 2 := rfl
  have ending : ">".length = 1 := rfl
  omega

/-- In every format, the body of a value is as long as its text allows to tell. -/
theorem encode_ne_of_length_ne {v w : Value} {operation : String} (f : WireFormat)
    (json : v.render.length ≠ w.render.length)
    (xml : (Xml.ofValue operation v).render.length ≠ (Xml.ofValue operation w).render.length) :
    f.encode v operation ≠ f.encode w operation := by
  intro same
  have lengths := congrArg String.length same
  cases f with
  | json => exact json lengths
  | xml =>
      simp only [WireFormat.encode, Xml.encode, String.length_append] at lengths
      omega
  | soap =>
      simp only [WireFormat.encode, Soap.encode, String.length_append] at lengths
      omega

/-- Null and false make bodies of different lengths in all formats. -/
theorem encode_null_ne_false (f : WireFormat) (operation : String) :
    f.encode .null operation ≠ f.encode (.bool false) operation := by
  have text : (Xml.renderAll [.text (Value.bool false).render]).length = 5 := by decide
  have element : Xml.ofValue operation (.bool false) =
      .element (Xml.elementName operation) [.text (Value.bool false).render] := rfl
  refine encode_ne_of_length_ne f (by decide) ?_
  rw [Xml.ofValue, element, length_render_empty, length_render_cons, text]
  omega

/-- So they do as the last reply, in contexts that hold nothing else. -/
theorem encode_reply_null_ne_false (f : WireFormat) (operation : String) :
    f.encode (replyHolding [] .null) operation ≠
      f.encode (replyHolding [] (.bool false)) operation := by
  have absent :
      (Xml.renderAll (.text "" :: Xml.memberNodes [(responseKey, .null)])).length = 11 := by
    decide
  have present :
      (Xml.renderAll (.text "" :: Xml.memberNodes [(responseKey, .bool false)])).length = 26 := by
    decide
  refine encode_ne_of_length_ne f (by decide) ?_
  rw [replyHolding, replyHolding, List.foldr_nil, List.foldr_nil, Xml.ofValue, Xml.ofValue,
    length_render_cons, length_render_cons, absent, present]
  omega

namespace ExternalSystem

variable {s : ExternalSystem} {settings : CallSettings} {env : Environment} {call : CallConfig}

/-! ### Requests -/

/-- A call that reaches the other system makes a request from every context, and only its body
depends on the context. -/
theorem Reaches.request_eq (reaches : s.Reaches env call) (settings : CallSettings) :
    ∃ url headers, ∀ context, s.request settings env call context =
      .ok ⟨Text.asciiUpper call.method, url, headers,
        s.format.encode (call.payload context) call.operation, s.callTimeout settings call⟩ := by
  obtain ⟨active, ⟨url, address⟩, headers, named⟩ := reaches
  refine ⟨url, headers, fun context => ?_⟩
  simp only [request, active, if_true, prepare, address, named]
  rfl

/-- A call that does not reach the other system fails in the same way from every context. -/
theorem request_eq_of_not_reaches (unreached : ¬ s.Reaches env call) (settings : CallSettings) :
    ∃ e, ∀ context, s.request settings env call context = .error e := by
  unfold request
  cases active : s.isActive with
  | false => exact ⟨.inactiveSystem s.code, fun context => by simp⟩
  | true =>
      cases address : callUrl s.baseUrl call.path with
      | error e =>
          refine ⟨.setup e, fun context => ?_⟩
          simp only [if_true, prepare, address]
          rfl
      | ok url =>
          cases named : s.callHeaders env call with
          | error e =>
              refine ⟨.setup e, fun context => ?_⟩
              simp only [if_true, prepare, address, named]
              rfl
          | ok headers => exact absurd ⟨active, ⟨url, address⟩, headers, named⟩ unreached

/-- An invocation is the same for all transports if the request is. -/
theorem invoke_eq_of_request_eq {σ : Type} {c d : Value}
    (same : s.request settings env call c = s.request settings env call d) (send : Transport σ) :
    s.invoke send settings env call c = s.invoke send settings env call d := by
  unfold invoke
  rw [same]

/-- A queue is sent the request of a call. -/
theorem sentWith_of_request {context : Value} {r : Request}
    (made : s.request settings env call context = .ok r) (q : Queue) :
    s.sentWith settings env call context q = q.sent ++ [r] := by
  have kept : ((Queue.send r).run q).2.sent = q.sent ++ [r] := by
    simp only [StateT.run, Queue.send]
    split
    · rfl
    · split <;> rfl
  rw [← kept, sentWith, invoke, made]
  rfl

/-- Different bodies are different requests. -/
theorem Reaches.sentWith_ne (reaches : s.Reaches env call) (settings : CallSettings) {c d : Value}
    (bodies : s.format.encode (call.payload c) call.operation ≠
      s.format.encode (call.payload d) call.operation) (q : Queue) :
    s.sentWith settings env call c q ≠ s.sentWith settings env call d q := by
  obtain ⟨url, headers, made⟩ := reaches.request_eq settings
  intro same
  rw [sentWith_of_request (made c), sentWith_of_request (made d)] at same
  simp only [List.append_cancel_left_eq, List.cons.injEq, Request.mk.injEq] at same
  exact bodies same.1.2.2.2.1

/-! ### Calls -/

/-- A call that omits the last reply, or makes no request, does not depend on it. -/
theorem request_eq_of_sameButReply {c d : Value}
    (hides : call.omitsReply = true ∨ ¬ s.Reaches env call) (apart : SameButReply c d) :
    s.request settings env call c = s.request settings env call d := by
  rcases hides with omits | unreached
  · simp only [request, prepare, CallConfig.payload_eq_of_sameButReply omits apart]
  · obtain ⟨e, failed⟩ := request_eq_of_not_reaches unreached settings
    rw [failed c, failed d]

/-- Any other call is sent differently from two contexts that differ in the last reply alone. -/
theorem exists_sentWith_ne (shows : call.omitsReply = false) (reaches : s.Reaches env call)
    (settings : CallSettings) :
    ∃ c d, SameButReply c d ∧ ∀ q,
      s.sentWith settings env call c q ≠ s.sentWith settings env call d q := by
  rcases CallConfig.payload_of_not_omitsReply shows with whole | ⟨rest, part⟩
  · refine ⟨_, _, sameButReply_replyHolding [] .null (.bool false),
      reaches.sentWith_ne settings ?_⟩
    rw [whole, whole]
    exact encode_reply_null_ne_false _ _
  · refine ⟨_, _, sameButReply_replyHolding rest .null (.bool false),
      reaches.sentWith_ne settings ?_⟩
    rw [part, part]
    exact encode_null_ne_false _ _

/-- **When the last reply is not sent.**  What a call hands to the transport does not depend on the
last reply exactly if the call omits it or makes no request, and then the whole invocation does not
depend on it, with any transport. -/
theorem sent_ignores_reply_iff (s : ExternalSystem) (settings : CallSettings) (env : Environment)
    (call : CallConfig) :
    ((∀ c d, SameButReply c d → ∀ q,
        s.sentWith settings env call c q = s.sentWith settings env call d q) ↔
      call.omitsReply = true ∨ ¬ s.Reaches env call) ∧
    (call.omitsReply = true ∨ ¬ s.Reaches env call → ∀ c d, SameButReply c d →
      ∀ (σ : Type) (send : Transport σ),
        s.invoke send settings env call c = s.invoke send settings env call d) := by
  refine ⟨⟨fun same => ?_, fun hides c d apart q => ?_⟩, fun hides c d apart σ send => ?_⟩
  · by_contra neither
    rw [not_or, not_not, Bool.not_eq_true] at neither
    obtain ⟨c, d, apart, differ⟩ := exists_sentWith_ne neither.1 neither.2 settings
    exact differ ⟨[], [], none⟩ (same c d apart _)
  · rw [sentWith, sentWith, invoke_eq_of_request_eq (request_eq_of_sameButReply hides apart)]
  · exact invoke_eq_of_request_eq (request_eq_of_sameButReply hides apart) send

/-- The path `$` names the whole context, and a call with it sends the last reply along. -/
theorem whole_context_shows_reply :
    let rater := ofUrl "rater" "https://rater.example.com/api" .json
    let call : CallConfig := ⟨"rater", none, "POST", "Request", none, [], some "$"⟩
    let before := Value.obj [("response", .str "stale"), ("state", .str "CA")]
    let after := Value.obj [("response", .str "fresh"), ("state", .str "CA")]
    rater.isActive = true ∧ SameButReply before after ∧
      rater.sentWith .standard (fun _ => none) call before ⟨[], [], none⟩ ≠
        rater.sentWith .standard (fun _ => none) call after ⟨[], [], none⟩ := by
  intro rater call before after
  have address : (callUrl rater.baseUrl call.path).toOption =
      some "https://rater.example.com/api" := by decide +kernel
  have reaches : rater.Reaches (fun _ => none) call := by
    refine ⟨rfl, ?_, _, rfl⟩
    cases made : callUrl rater.baseUrl call.path with
    | error e => simp [made, Except.toOption] at address
    | ok url => exact ⟨url, rfl⟩
  refine ⟨rfl, .objects ?_ ?_ ?_, reaches.sentWith_ne _ ?_ _⟩
  · decide
  · decide
  · intro key ne
    rw [responseKey] at ne
    simp [Table.get?, ne.symm]
  · decide +kernel

end ExternalSystem

end Interchange
