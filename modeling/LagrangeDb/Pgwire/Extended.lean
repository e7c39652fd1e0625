import LagrangeDb.Data.Run
import LagrangeDb.Pgwire.Wire

namespace LagrangeDb.Pgwire

open Data

structure Handed where
  query : String
  params : List (Option String)
deriving DecidableEq

structure Handled where
  session : Session
  replies : List Reply
  handed : Option Handed := none

def internalError : String := "XX000"

def statementNotFound (name : String) : Reply :=
  .errorResponse internalError ("Prepared statement not found: '" ++ name ++ "'")

def portalNotFound (name : String) : Reply :=
  .errorResponse internalError ("Portal not found: '" ++ name ++ "'")

def inFailedTransaction : Reply :=
  .errorResponse "25P02" ("current transaction is aborted, commands ignored " ++
    "until end of transaction block")

def invalidDescribeTarget (type : Option UInt8) : Reply :=
  .errorResponse "08P01" ("Invalid describe target type: " ++ type.elim "undefined" toString)

section

variable (grammar : String → Option Control) (session : Session)

def handleParse (message : ParseMessage) : Handled where
  session := session.setPreparedStatement message.name message.query
    message.paramTypes
  replies := [.parseComplete]

def handleBind (message : BindMessage) : Handled :=
  match session.statements message.statement with
  | none => { session, replies := [statementNotFound message.statement] }
  | some _ =>
    { session := session.setPortal message.portal message.statement
        message.params
      replies := [.bindComplete] }

def handleDescribe (type : Option UInt8) (name : String) : Handled :=
  match targetOf type with
  | .statement =>
    { session
      replies := [if (session.statements name).isSome then .noData
        else statementNotFound name] }
  | .portal =>
    { session
      replies := [if (session.portals name).isSome then .noData
        else portalNotFound name] }
  | .unknown => { session, replies := [invalidDescribeTarget type] }

/-- The statement is looked up by the name its portal remembers. -/
def handleExecute (portalName : String) (answer : Answer) : Handled :=
  match session.portals portalName with
  | none => { session, replies := [portalNotFound portalName] }
  | some portal =>
    match session.statements portal.statementName with
    | none => { session, replies := [statementNotFound portal.statementName] }
    | some statement =>
      match session.admitStatement grammar statement.query with
      | none => { session, replies := [inFailedTransaction] }
      | some query =>
        let (next, replies) := answerStatement session answer
        { session := next, replies, handed := some ⟨query, portal.params⟩ }

def handleClose (target : Target) (name : String) : Handled :=
  match target with
  | .statement =>
    { session := session.closePreparedStatement name, replies := [.closeComplete] }
  | .portal =>
    { session := session.closePortal name, replies := [.closeComplete] }
  | .unknown => { session, replies := [.closeComplete] }

def handleSync : Handled :=
  { session, replies := [.readyForQuery session.txState] }

/-- None where reading the payload throws, which ends the connection. -/
def dispatch (codec : Codec) (type : FrontendType) (payload : Bytes)
    (answer : Answer) : Option Handled :=
  match type with
  | .parse => (parseParseMessage codec payload).map (handleParse session)
  | .bind => (parseBindMessage codec payload).map (handleBind session)
  | .describe =>
    let (type, name) := parseTargetMessage codec payload
    some (handleDescribe session type name)
  | .execute =>
    (parseExecuteMessage codec payload).map fun portal =>
      handleExecute grammar session portal answer
  | .close =>
    let (type, name) := parseTargetMessage codec payload
    some (handleClose session (targetOf type) name)
  | .sync => some (handleSync session)

end

/-- The text and the values of a Bind that was answered with success. -/
structure Bound where
  query : String
  params : List (Option String)
deriving DecidableEq

/-- The format code of a value: one code stands for all values, none for text. -/
def Bind.formatOf (message : Bind) (index : Nat) : Nat :=
  match message.formats with
  | [] => 0
  | [format] => format
  | formats => formats.getD index 0

def textOf (codec : Codec) (format : Nat) (bytes : Bytes) : Option String :=
  let text := codec.decode bytes
  if format = 0 ∧ codec.encode text = bytes then some text else none

def valueOf (codec : Codec) (format : Nat) : Option Bytes → Option (Option String)
  | none => some none
  | some bytes => (textOf codec format bytes).map some

/-- The values a Bind carries; none where one is in a format the server does not
decode. -/
def Bind.carried (codec : Codec) (message : Bind) : Option (List (Option String)) :=
  message.params.zipIdx.mapM fun (param, index) => valueOf codec (message.formatOf index) param

/-- A connection, with what its portals are bound to by the protocol. -/
structure Connection where
  session : Session
  bindings : Names Bound

namespace Connection

def fresh : Connection := ⟨.fresh, fun _ => none⟩

variable (codec : Codec) (grammar : String → Option Control)

/-- A Bind binds its portal anew or, when it is refused, not at all. -/
def bindingsAfter (connection : Connection) : Message → Names Bound
  | .bind message =>
    let bound := do
      let statement ← connection.session.statements message.statement.value
      let params ← message.carried codec
      return Bound.mk statement.query params
    fun name => if name = message.portal.value then bound
      else connection.bindings name
  | .close .portal name => connection.bindings.delete name.value
  | _ => connection.bindings

def receive (connection : Connection) (message : Message) (answer : Answer) : Option Handled :=
  dispatch grammar connection.session codec message.type (message.payload codec) answer

def step (connection : Connection) (event : Message × Answer) : Option Connection :=
  (connection.receive codec grammar event.1 event.2).map fun handled =>
    ⟨handled.session, connection.bindingsAfter codec event.1⟩

/-- An Execute sends an error, or executes what its portal is bound to. -/
def Executes (connection : Connection) (event : Message × Answer) : Prop :=
  ∀ portal maxRows, event.1 = .execute portal maxRows →
    ∃ handled, connection.receive codec grammar event.1 event.2 = some handled ∧
      match handled.handed with
      | none => ∃ code text, handled.replies = [.errorResponse code text]
      | some handed => ∃ bound, connection.bindings portal.value = some bound ∧
          connection.session.admitStatement grammar bound.query = some handed.query ∧
          handed.params = bound.params

/-- A statement is not parsed again while a portal of another name stands for
it; a refused Bind does not name an open portal; and values are text. -/
def orderly (connection : Connection) (event : Message × Answer) : Prop :=
  match event.1 with
  | .parse name _ _ _ => ∀ portalName portal,
      connection.session.portals portalName = some portal →
        portal.statementName = name.value → portalName = name.value
  | .bind message =>
    match connection.session.statements message.statement.value with
    | none => connection.session.portals message.portal.value = none
    | some _ => (message.carried codec).isSome
  | _ => True

/-- Every open portal holds what it is bound to, as long as its statement
stands. -/
def Faithful (connection : Connection) : Prop :=
  ∀ name portal, connection.session.portals name = some portal →
    ∃ bound, connection.bindings name = some bound ∧ bound.params = portal.params ∧
      ∀ statement, connection.session.statements portal.statementName =
        some statement → statement.query = bound.query

section

variable {codec grammar} {connection : Connection} {answer : Answer}

theorem receive_parse (name query : CText) (paramTypes : List Nat)
    (fits : paramTypes.length < 2 ^ 15) :
    ∃ types, connection.receive codec grammar (.parse name query paramTypes fits) answer =
        some (handleParse connection.session ⟨name.value, query.value, types⟩) := by
  obtain ⟨types, read⟩ := parseParseMessage_payload codec name query paramTypes fits
  refine ⟨types, ?_⟩
  simp only [receive, Message.type, dispatch, read, Option.map_some]

theorem receive_bind (message : Bind) : connection.receive codec grammar (.bind message) answer =
      some (handleBind connection.session ⟨message.portal.value,
        message.statement.value, message.params.map (Option.map codec.decode)⟩) := by
  simp only [receive, Message.type, dispatch, parseBindMessage_payload, Option.map_some]

theorem receive_execute (portal : CText) (maxRows : Nat) :
    connection.receive codec grammar (.execute portal maxRows) answer =
      some (handleExecute grammar connection.session portal.value answer) := by
  simp only [receive, Message.type, dispatch, parseExecuteMessage_payload, Option.map_some]

theorem receive_close (target : Target) (name : CText) :
    connection.receive codec grammar (.close target name) answer =
      some (handleClose connection.session target name.value) := by
  simp only [receive, Message.type, dispatch, Message.payload, parseTargetMessage_payload,
    targetOf_byte]

theorem handleExecute_names (grammar : String → Option Control)
    (session : Session) (portalName : String) (answer : Answer) :
    (handleExecute grammar session portalName answer).session.statements = session.statements ∧
      (handleExecute grammar session portalName answer).session.portals = session.portals := by
  unfold handleExecute
  split
  · exact ⟨rfl, rfl⟩
  split
  · exact ⟨rfl, rfl⟩
  split
  · exact ⟨rfl, rfl⟩
  · exact answerStatement_names session answer

theorem decode_of_valueOf (given : valueOf codec format param = some value) :
    param.map codec.decode = value := by
  cases param with
  | none => exact Option.some.inj given
  | some bytes =>
    obtain ⟨text, isText, rfl⟩ := Option.map_eq_some_iff.mp given
    obtain ⟨-, same⟩ := Option.ite_none_right_eq_some.mp isText
    obtain rfl := Option.some.inj same
    rfl

variable {values : List (Option String)}

theorem decode_of_mapM (formatOf : Nat → Nat) (params : List (Option Bytes))
    (first : Nat) (given : (params.zipIdx first).mapM (fun (param, index) =>
      valueOf codec (formatOf index) param) = some values) :
    params.map (Option.map codec.decode) = values := by
  induction params generalizing first values with
  | nil => exact Option.some.inj given
  | cons param rest induction =>
    rw [List.zipIdx_cons, List.mapM_cons] at given
    obtain ⟨value, isValue, given⟩ := Option.bind_eq_some_iff.mp given
    obtain ⟨others, areOthers, same⟩ := Option.bind_eq_some_iff.mp given
    obtain rfl := Option.some.inj same
    rw [List.map_cons, decode_of_valueOf isValue, induction _ areOthers]

theorem decode_of_carried {message : Bind} (given : message.carried codec = some values) :
    message.params.map (Option.map codec.decode) = values :=
  decode_of_mapM message.formatOf message.params 0 given

variable {next : Connection}

theorem Faithful.fewer (faithful : connection.Faithful)
    (portals : ∀ name portal, next.session.portals name = some portal →
      connection.session.portals name = some portal ∧
        next.bindings name = connection.bindings name ∧
        ∀ statement, next.session.statements portal.statementName =
          some statement → connection.session.statements portal.statementName =
              some statement) : next.Faithful := by
  intro name portal isPortal
  obtain ⟨wasPortal, sameBinding, sameStatement⟩ := portals name portal isPortal
  obtain ⟨bound, isBound, params, query⟩ := faithful name portal wasPortal
  exact ⟨bound, sameBinding.trans isBound, params,
    fun statement found => query statement (sameStatement statement found)⟩

variable {bindings : Names Bound} {session : Session}

theorem Faithful.parse (faithful : Faithful ⟨session, bindings⟩) (message : ParseMessage)
    (apart : ∀ portalName portal, session.portals portalName = some portal →
      portal.statementName = message.name → portalName = message.name) :
    Faithful ⟨(handleParse session message).session, bindings⟩ := by
  refine faithful.fewer fun name portal isPortal => ?_
  simp only [handleParse, Session.setPreparedStatement, Names.delete] at isPortal
  obtain ⟨other, isPortal⟩ := Option.ite_none_left_eq_some.mp isPortal
  refine ⟨isPortal, rfl, fun statement found => ?_⟩
  have different : portal.statementName ≠ message.name :=
    fun same => other (apart name portal isPortal same)
  simpa [handleParse, Session.setPreparedStatement, Names.set, different] using found

theorem Faithful.close (faithful : Faithful ⟨session, bindings⟩) (target : Target) (name : CText) :
    Faithful ⟨(handleClose session target name.value).session,
      bindingsAfter codec ⟨session, bindings⟩ (.close target name)⟩ := by
  cases target with
  | unknown => exact faithful
  | statement =>
    refine faithful.fewer fun other portal isPortal => ?_
    simp only [handleClose, Session.closePreparedStatement, Names.delete]
      at isPortal
    obtain ⟨-, isPortal⟩ := Option.ite_none_left_eq_some.mp isPortal
    refine ⟨isPortal, rfl, fun statement found => ?_⟩
    simp only [handleClose, Session.closePreparedStatement, Names.delete]
      at found
    exact (Option.ite_none_left_eq_some.mp found).2
  | portal =>
    refine faithful.fewer fun other portal isPortal => ?_
    simp only [handleClose, Session.closePortal, Names.delete] at isPortal
    obtain ⟨different, isPortal⟩ := Option.ite_none_left_eq_some.mp isPortal
    refine ⟨isPortal, ?_, fun statement found => found⟩
    simp [bindingsAfter, Names.delete, different]

theorem Faithful.bind (faithful : Faithful ⟨session, bindings⟩) (message : Bind)
    (orderly : match session.statements message.statement.value with
      | none => session.portals message.portal.value = none
      | some _ => (message.carried codec).isSome) :
    Faithful ⟨(handleBind session ⟨message.portal.value, message.statement.value,
      message.params.map (Option.map codec.decode)⟩).session,
      bindingsAfter codec ⟨session, bindings⟩ (.bind message)⟩ := by
  unfold handleBind
  dsimp only
  cases found : session.statements message.statement.value with
  | none =>
    rw [found] at orderly
    refine faithful.fewer fun name portal isPortal => ?_
    refine ⟨isPortal, ?_, fun statement same => same⟩
    have different : name ≠ message.portal.value := by
      rintro rfl
      rw [show session.portals _ = none from orderly] at isPortal
      cases isPortal
    simp [bindingsAfter, different]
  | some statement =>
    rw [found] at orderly
    obtain ⟨values, carried⟩ := Option.isSome_iff_exists.mp orderly
    intro name portal isPortal
    simp only [Session.setPortal, Names.set] at isPortal
    split at isPortal
    next same =>
      obtain rfl := Option.some.inj isPortal
      refine ⟨⟨statement.query, values⟩, ?_, (decode_of_carried carried).symm,
        fun other isOther => ?_⟩
      · simp [bindingsAfter, same, found, carried]
      rw [show session.statements _ = some other from isOther] at found
      obtain rfl := Option.some.inj found
      rfl
    next different =>
      obtain ⟨bound, isBound, params, query⟩ := faithful name portal isPortal
      refine ⟨bound, ?_, params, query⟩
      simp only [bindingsAfter, different, if_false]
      exact isBound

theorem Faithful.step (faithful : connection.Faithful) (allowed : connection.orderly codec event)
    (stepped : connection.step codec grammar event = some next) : next.Faithful := by
  obtain ⟨message, answer⟩ := event
  obtain ⟨handled, received, rfl⟩ := Option.map_eq_some_iff.mp stepped
  cases message with
  | parse name query paramTypes fits =>
    obtain ⟨types, read⟩ : ∃ types, connection.receive codec grammar
        (.parse name query paramTypes fits) answer =
          some (handleParse connection.session ⟨name.value, query.value, types⟩) :=
      receive_parse name query paramTypes fits
    rw [read] at received
    obtain rfl := Option.some.inj received
    exact faithful.parse _ allowed
  | bind message =>
    rw [receive_bind] at received
    obtain rfl := Option.some.inj received
    exact faithful.bind message allowed
  | describe target name =>
    have same : handled.session = connection.session := by
      obtain rfl := Option.some.inj received
      unfold handleDescribe
      split <;> rfl
    rw [same]
    exact faithful
  | execute portal maxRows =>
    rw [receive_execute] at received
    obtain rfl := Option.some.inj received
    obtain ⟨statements, portals⟩ := handleExecute_names grammar
      connection.session portal.value answer
    refine faithful.fewer fun name other isPortal => ?_
    rw [portals] at isPortal
    refine ⟨isPortal, rfl, fun statement found => ?_⟩
    rw [statements] at found
    exact found
  | close target name =>
    rw [receive_close] at received
    obtain rfl := Option.some.inj received
    exact faithful.close target name
  | sync =>
    obtain rfl := Option.some.inj received
    exact faithful

theorem Faithful.executes (faithful : connection.Faithful)
    (event : Message × Answer) : connection.Executes codec grammar event := by
  obtain ⟨message, answer⟩ := event
  rintro portal maxRows rfl
  refine ⟨_, receive_execute portal maxRows, ?_⟩
  unfold handleExecute
  cases isPortal : connection.session.portals portal.value with
  | none => exact ⟨_, _, rfl⟩
  | some open_ =>
    obtain ⟨bound, isBound, params, query⟩ := faithful portal.value open_ isPortal
    dsimp only
    cases found : connection.session.statements open_.statementName with
    | none => exact ⟨_, _, rfl⟩
    | some statement =>
      dsimp only
      cases admitted : connection.session.admitStatement grammar statement.query with
      | none => exact ⟨_, _, rfl⟩
      | some text =>
        refine ⟨bound, isBound, ?_, params.symm⟩
        rw [← query statement found]
        exact admitted

end

variable {grammar : String → Option Control} {codec : Codec}

theorem step_parse (connection : Connection) (name query : CText) (paramTypes : List Nat)
    (fits : paramTypes.length < 2 ^ 15) (answer : Answer) : ∃ types, connection.step codec grammar
      (.parse name query paramTypes fits, answer) =
        some ⟨connection.session.setPreparedStatement name.value query.value types,
          connection.bindings⟩ := by
  obtain ⟨types, read⟩ : ∃ types, connection.receive codec grammar
      (.parse name query paramTypes fits) answer =
        some (handleParse connection.session ⟨name.value, query.value, types⟩) :=
    receive_parse name query paramTypes fits
  refine ⟨types, ?_⟩
  simp only [step, read, Option.map_some, handleParse, bindingsAfter]

theorem step_bind (connection : Connection) (message : Bind) (answer : Answer) :
    connection.step codec grammar (.bind message, answer) =
      some ⟨(handleBind connection.session ⟨message.portal.value, message.statement.value,
        message.params.map (Option.map codec.decode)⟩).session,
        connection.bindingsAfter codec (.bind message)⟩ := by
  simp only [step, receive_bind, Option.map_some]

/-- Along every orderly run each Execute sends an error or executes what was
bound. -/
theorem executes_bound {codec : Codec} {grammar : String → Option Control}
    {events : List (Message × Answer)}
    (allowed : Allowed (step codec grammar) (orderly codec) fresh events) :
    Allowed (step codec grammar) (Executes codec grammar) fresh events := by
  have start : fresh.Faithful := fun _ _ isPortal => nomatch isPortal
  exact Allowed.of_invariant Faithful.step
    (fun faithful _ => Faithful.executes faithful _) start allowed

namespace Sample

theorem nul_notin_utf8EncodeChar (other : character ≠ '\x00') :
    (0 : UInt8) ∉ String.utf8EncodeChar character := by
  have nonzero : character.val.toNat ≠ 0 := by
    intro zero
    exact other (Char.ext (UInt32.toNat_inj.mp zero))
  have byte (value : Nat) (positive : value % 256 ≠ 0) :
      (0 : UInt8) ≠ UInt8.ofNat value := by
    intro same
    have values := congrArg UInt8.toNat same
    rw [UInt8.toNat_ofNat'] at values
    exact positive values.symm
  unfold String.utf8EncodeChar
  dsimp only
  split
  · rw [List.mem_singleton]
    exact byte _ (by omega)
  split
  · simp only [List.mem_cons, List.not_mem_nil, or_false, not_or]
    exact ⟨byte _ (by omega), byte _ (by omega)⟩
  split
  · simp only [List.mem_cons, List.not_mem_nil, or_false, not_or]
    exact ⟨byte _ (by omega), byte _ (by omega), byte _ (by omega)⟩
  simp only [List.mem_cons, List.not_mem_nil, or_false, not_or]
  exact ⟨byte _ (by omega), byte _ (by omega), byte _ (by omega),
    byte _ (by omega)⟩

def utf8 : Codec where
  encode text := text.toList.flatMap String.utf8EncodeChar
  decode bytes :=
    match bytes.toByteArray.utf8Decode? with
    | some characters => String.ofList characters.toList
    | none => "\uFFFD"
  decode_encode text := by
    have read := @List.utf8Decode?_utf8Encode text.toList
    rw [List.utf8Encode] at read
    simp only [read]
    exact String.ofList_toList
  encode_nul text free := by
    intro member
    obtain ⟨character, inText, inBytes⟩ := List.mem_flatMap.mp member
    refine nul_notin_utf8EncodeChar ?_ inBytes
    rintro rfl
    exact free inText

def noControl : String → Option Control := fun _ => none

def s : CText := ⟨"s", by decide⟩

def p : CText := ⟨"p", by decide⟩

def missing : CText := ⟨"missing", by decide⟩

def select : CText := ⟨"SELECT $1", by decide⟩

def deletion : CText := ⟨"DELETE FROM t", by decide⟩

def prepare (query : CText) : Message × Answer :=
  (.parse s query [] (by decide), .provisioningDeadlineExpired)

def bindTo (statement : CText) (formats : List Nat)
    (fits : formats.length < 2 ^ 15) : Message × Answer :=
  (.bind {
    portal := p, statement, formats, params := [some (utf8.encode "1")],
    resultFormats := [], formats_fit := fits, params_fit := by decide,
    values_fit := by
      intro value member
      obtain rfl := Option.some.inj (List.mem_singleton.mp member)
      decide }, .provisioningDeadlineExpired)

def executeP : Message × Answer := (.execute p 0, .succeeded (some (.other (some "SELECT 1"))) none)

theorem handed_bound {connection : Connection} (exact : connection.Executes utf8 noControl executeP)
    (isPortal : connection.session.portals "p" = some portal)
    (isStatement : connection.session.statements portal.statementName = some statement)
    (idle : connection.session.txState = .idle) :
    connection.bindings "p" = some ⟨statement.query, portal.params⟩ := by
  obtain ⟨handled, received, told⟩ := exact p 0 rfl
  rw [executeP, receive_execute] at received
  obtain rfl := Option.some.inj received
  have admits (query : String) :
      connection.session.admitStatement noControl query = some query := by
    simp [Session.admitStatement, idle]
  simp only [handleExecute, show p.value = "p" from rfl, isPortal, isStatement, admits] at told
  obtain ⟨bound, isBound, query, params⟩ := told
  rw [isBound, ← Option.some.inj query, params]

theorem bound_select_executes : Allowed (step utf8 noControl) (Executes utf8 noControl) fresh
      [prepare select, bindTo s [0] (by decide), executeP] := by
  refine executes_bound ⟨fun _ _ => nofun, fun prepared stepped => ⟨?_, ?_⟩⟩
  · obtain ⟨types, read⟩ := step_parse fresh s select [] (by decide)
      .provisioningDeadlineExpired
    rw [prepare, read] at stepped
    obtain rfl := Option.some.inj stepped
    simp [orderly, bindTo, Session.setPreparedStatement, Names.set, s,
      Bind.carried, valueOf, textOf, Bind.formatOf, utf8.decode_encode]
  · exact fun _ _ => ⟨trivial, fun _ _ => trivial⟩

/-- A statement parsed again under an open portal, a refused Bind and a value in
binary format. -/
theorem older_binding_executed : ¬ Allowed (step utf8 noControl) (Executes utf8 noControl) fresh
      [prepare select, bindTo s [] (by decide), prepare deletion, executeP] ∧
    ¬ Allowed (step utf8 noControl) (Executes utf8 noControl) fresh
      [prepare select, bindTo s [] (by decide), bindTo missing [] (by decide), executeP] ∧
    ¬ Allowed (step utf8 noControl) (Executes utf8 noControl) fresh
      [prepare select, bindTo s [1] (by decide), executeP] := by
  obtain ⟨types, prepared⟩ := step_parse fresh s select [] (by decide)
    .provisioningDeadlineExpired
  refine ⟨fun exact => ?_, fun exact => ?_, fun exact => ?_⟩
  · have bound := (exact.2 _ prepared).2 _ (step_bind _ _ _)
    obtain ⟨types', again⟩ := step_parse _ s deletion [] (by decide)
      .provisioningDeadlineExpired
    have told := handed_bound (bound.2 _ again).1 rfl rfl rfl
    simp [bindingsAfter, Session.setPreparedStatement, Names.set, s, p, select,
      deletion, Bind.carried, valueOf, textOf, Bind.formatOf,
      utf8.decode_encode] at told
  · have bound := (exact.2 _ prepared).2 _ (step_bind _ _ _)
    have told := handed_bound (bound.2 _ (step_bind _ _ _)).1 rfl rfl rfl
    simp [bindingsAfter, Session.setPreparedStatement, Names.set, s, p,
      missing, handleBind, Session.setPortal, fresh, Session.fresh] at told
  · have bound := (exact.2 _ prepared).2 _ (step_bind _ _ _)
    have told := handed_bound bound.1 rfl rfl rfl
    simp [bindingsAfter, Session.setPreparedStatement, Names.set, s, p,
      Bind.carried, valueOf, textOf, Bind.formatOf] at told

end Sample

end Connection

end LagrangeDb.Pgwire
