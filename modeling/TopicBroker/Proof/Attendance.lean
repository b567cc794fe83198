import TopicBroker.Proof.Conversations
import TopicBroker.Proof.Reconnection
import TopicBroker.Proof.Service

/-!
# What a round does for one id

Only a request changes the topics under an id, and it does so as the line says
that was typed. Every frame goes to a client that is connected after the round.
-/

namespace TopicBroker

/-! ## Topics under an id -/

/-- The topics that the server has under an id. -/
def Server.topicsOf (s : Server) : Bytes → Bytes → Option ClientOption :=
  (clientMap s.clients).topicsOf

/-- What a line does to the topics of the subscriber that typed it. -/
def heed (topics : Bytes → Option ClientOption) (line : Bytes) : Bytes → Option ClientOption :=
  match lineWords line with
  | cmd :: topic :: more =>
      if cmd = subscribeCmd then Function.update topics topic (some (typedOption more))
      else if cmd = unsubscribeCmd then Function.update topics topic none
      else topics
  | _ => topics

/-- What lines do one after the other. -/
def heedAll (topics : Bytes → Option ClientOption) (lines : List Bytes) :
    Bytes → Option ClientOption :=
  lines.foldl heed topics

theorem heedAll_append (topics : Bytes → Option ClientOption) (lines more : List Bytes) :
    heedAll topics (lines ++ more) = heedAll (heedAll topics lines) more := List.foldl_append

section Answer

variable {s : Server} {kernel : Kernel} {clientFd : Int} {id : Bytes}

/-- The answer to a line does to the topics of the owner what the line says. -/
theorem answer_topicsOf (table : ClientTable s.clients) (distinct : DistinctTopics s.clients)
    (memory : kernel.subscribe = .succeed) (owner : (clientMap s.clients).owner clientFd = some id)
    (line : Bytes) : (answer line kernel clientFd s).2.topicsOf =
      Function.update s.topicsOf id (heed (s.topicsOf id) line) := by
  have unchanged : s.topicsOf = Function.update s.topicsOf id (s.topicsOf id) :=
    (Function.update_eq_self id s.topicsOf).symm
  unfold answer heed
  cases lineWords line with
  | nil => exact unchanged
  | cons cmd behind =>
      cases behind with
      | nil => exact unchanged
      | cons topic more =>
          by_cases subscribes : cmd = subscribeCmd
          · have after := (subscribeClientToTopic_stepped table distinct clientFd topic
              (typedOption more)).simulates.map_eq
            simp only [if_pos subscribes, memory]
            exact (congrArg Registry.topicsOf after).trans
              (Registry.topicsOf_subscribe owner topic _)
          · by_cases unsubscribes : cmd = unsubscribeCmd
            · have after := (unsubscribeClientFromTopic_stepped table distinct clientFd
                topic).simulates.map_eq
              simp only [if_neg subscribes, if_pos unsubscribes]
              exact (congrArg Registry.topicsOf after).trans
                (Registry.topicsOf_unsubscribe owner topic)
            · simp only [if_neg subscribes, if_neg unsubscribes]
              exact unchanged

end Answer

/-! ## Rounds without a request -/

/-- The part of an entry that says what is subscribed under which id. -/
def ClientType.subscriptions (c : ClientType) : Bytes × TopicTable := (c.id, c.table)

theorem topicsOf_congr {clients after : ClientVec}
    (same : after.elems.map ClientType.subscriptions =
      clients.elems.map ClientType.subscriptions) :
    (clientMap after).topicsOf = (clientMap clients).topicsOf := by
  have read : ∀ (entries : ClientVec) (id : Bytes), (clientMap entries).topicsOf id =
      (locate (fun entry => entry.1 == id) (entries.elems.map ClientType.subscriptions)).elim
        (fun _ => none) fun found => found.2.2.option? := by
    intro entries id
    rw [locate_map, Registry.topicsOf, clientMap]
    change _ = Option.elim (Option.map _ (locate (fun c => c.id == id) entries.elems)) _ _
    cases locate (fun c => c.id == id) entries.elems <;> rfl
  funext id
  rw [read after, read clients, same]

theorem Registered.topicsOf {clients after : ClientVec} {id : Bytes} {fd : Int}
    (enrolled : Registered clients id fd after) :
    (clientMap after).topicsOf = (clientMap clients).topicsOf := by
  cases enrolled with
  | again iter c here same dead => exact topicsOf_congr (map_set_of_eq here rfl)
  | fresh absent =>
      have none_before : (clientMap clients).topicsOf id = fun _ => none := by
        rw [Registry.topicsOf, clientMap_absent absent]
        rfl
      rw [clientMap_push absent, Registry.topicsOf_revise]
      refine Function.update_eq_iff.mpr ⟨?_, fun _ _ => rfl⟩
      rw [ClientType.fresh, none_before]
      exact funext fun topic => @TopicTable.option?_create topic initTopicsCapacity (by decide)

theorem Listened.topicsOf {kernel : Kernel} {s t : Server} {log : List Event}
    (listened : Listened kernel s log t) : t.topicsOf = s.topicsOf := by
  cases listened with
  | refused recvMsg pollVec clients positive samePoll sameClients refused =>
      exact topicsOf_congr (congrArg _ sameClients)
  | joined recvMsg clients index c positive unopened enrolled found =>
      have here := (locate_eq_some found).1
      rw [(retransmitTopicsToClient_found found).1]
      refine Eq.trans (topicsOf_congr ?_) enrolled.topicsOf
      exact map_set_of_eq here rfl

theorem publish_topicsOf {kernel : Kernel} {r : Server} (ran : (publish kernel r).err = .ok) :
    (publish kernel r).server.topicsOf = r.topicsOf := by
  obtain ⟨_, _, clients, server, elems, _⟩ := publish_ok ran
  have same : ClientType.subscriptions ∘ ClientType.notified (r.nextRef kernel) r.parsed.name =
      ClientType.subscriptions := by
    funext c
    change (ClientType.notified _ _ c).subscriptions = c.subscriptions
    unfold ClientType.notified
    split <;> rfl
  rw [server]
  refine topicsOf_congr ?_
  change clients.elems.map _ = _
  rw [elems, List.map_map, same]

section Serve

variable {kernel : Kernel} {iter : Nat} {s : Server}

theorem serveUdp_topicsOf : (serveUdp kernel iter s).err = .ok →
    (serveUdp kernel iter s).server.topicsOf = s.topicsOf := by
  refine serveUdp_branches (motive := fun done => done.err = .ok →
    done.server.topicsOf = s.topicsOf) kernel iter s ?_ ?_ ?_
  · exact fun _ ran => publish_topicsOf ran
  · exact fun _ _ _ _ _ => rfl
  · exact fun addr payload _ _ ran => publish_topicsOf (r := s.receive addr payload) ran

theorem serveClient_closing (fd : Int) (ended : (kernel.recvTcpMsg fd s.recvMsg).1 ≠ .ok) :
    (serveClient kernel iter fd s).server.topicsOf = s.topicsOf := by
  unfold serveClient
  dsimp only
  rw [if_pos ended]
  split
  · rfl
  · rename_i closed
    obtain ⟨index, c, here, _, _, after⟩ := closeActiveClient_ok (not_not.mp closed)
    refine topicsOf_congr ?_
    change (closeActiveClient s.clients fd).2.1.elems.map _ = _
    rw [after]
    exact map_set_of_eq here rfl

/-- The topics change in no round but one that reads a request. -/
theorem serve_topicsOf (unheard : ∀ fd, s.pollVec.fds[iter]? = some fd → fd ≠ s.udpSocket →
    fd ≠ s.tcpSocket → (kernel.recvTcpMsg fd s.recvMsg).1 ≠ .ok) :
    (serve kernel iter s).err = .ok → (serve kernel iter s).server.topicsOf = s.topicsOf := by
  refine serve_branches (motive := fun done => done.err = .ok →
    done.server.topicsOf = s.topicsOf) kernel iter s ?_ ?_ ?_ ?_
  · exact fun _ _ => rfl
  · exact fun _ ran => serveUdp_topicsOf ran
  · exact fun _ _ ran => (serveListener_listened ran).topicsOf
  · exact fun fd atFd notUdp notTcp _ => serveClient_closing fd (unheard fd atFd notUdp notTcp)

/-- A round that reads a frame which brings a line. -/
theorem serve_request {fd : Int} {frame : TcpMsg} {line : Bytes} (brings : frame.Brings line)
    (atFd : s.pollVec.fds[iter]? = some fd) (notUdp : fd ≠ s.udpSocket) (notTcp : fd ≠ s.tcpSocket)
    (heard : kernel.recvTcpMsg fd s.recvMsg = (.ok, frame)) :
    (serve kernel iter s).server =
        (answer line kernel fd { s with recvMsg := frame }).2 ∧ (serve kernel iter s).log = [] := by
  have branch : serve kernel iter s = serveClient kernel iter fd s := by
    rw [serve_at atFd, if_neg notUdp, if_neg notTcp]
  rw [branch]
  refine ⟨?_, serveClient_log kernel iter fd s⟩
  unfold serveClient
  dsimp only
  rw [heard, if_neg (not_not.mpr rfl)]
  exact congrArg Prod.snd (brings kernel fd { s with recvMsg := frame } rfl)

end Serve

/-! ## To whom a round sends -/

/-- Every frame of the log went to a client that is connected. -/
def SendsConnected (t : Server) (log : List Event) : Prop :=
  ∀ client fd source live frame, Event.sent client fd source live frame ∈ log →
    ∃ c ∈ t.clients.elems, c.status = .active ∧ c.id = client ∧ c.fd = fd

theorem SendsConnected.nil (t : Server) : SendsConnected t [] :=
  fun _ _ _ _ _ impossible => nomatch impossible

theorem sent_notices_owner {kernel : Kernel} {s : Server} {source other : Ref} {msg : UdpType}
    {iter : Nat} {c : ClientType} {id : Bytes} {fd : Int} {live : Bool} {frame : TcpMsg}
    (member : Event.sent id fd other live frame ∈ notices kernel s source msg iter c) :
    c.status = .active ∧ c.id = id ∧ c.fd = fd := by
  unfold notices at member
  split at member
  · rename_i taken
    split at member
    · cases List.mem_singleton.mp member
      exact ⟨taken.1, rfl, rfl⟩
    · cases member
  · split at member
    · simp at member
    · cases member

theorem Round.sendsConnected {kernel : Kernel} {iter : Nat} {s t : Server} {log : List Event}
    (table : ClientTable t.clients) (ran : Round kernel iter s log t) : SendsConnected t log := by
  cases ran with
  | idle recvMsg => exact .nil _
  | emptied addr payload atUdp answer empty =>
      intro client fd source live frame member
      simp at member
  | published heard r clients atUdp received room known notified =>
      intro client fd source live frame member
      rcases List.mem_append.mp member with early | late
      · exact absurd early (received.not_sent _ _ _ _ _)
      · obtain ⟨index, c, listed, noticed⟩ := mem_allNotices.mp late
        obtain ⟨active, id, owns⟩ := sent_notices_owner noticed
        have same :
            clients.elems.map ClientType.contact = r.clients.elems.map ClientType.contact := by
          rw [notified, ClientType.contacts_notified]
        obtain ⟨d, there, contact⟩ := exists_contact same.symm (List.mem_of_getElem? listed)
        simp only [ClientType.contact, Prod.mk.injEq] at contact
        exact ⟨d, there, contact.2.1.trans active, contact.1.trans id, contact.2.2.trans owns⟩
  | rejected recvMsg pollVec clients samePoll sameClients => exact .nil _
  | registered id fd recvMsg sendMsg clients index c kept left log positive unopened enrolled
      found shorter complete resent =>
      intro client target source live frame member
      obtain ⟨_, _, _, eq⟩ := resent.mem member
      cases eq
      obtain ⟨here, owner, _⟩ := locate_eq_some found
      obtain ⟨inside, _⟩ := List.getElem?_eq_some_iff.mp here
      have owns : c.fd = fd := by simpa using owner
      have listed : c.truncate kept ∈ (clients.set index (c.truncate kept)).elems :=
        List.mem_set inside _
      refine ⟨c.truncate kept, listed, table.active_of_fd listed ?_, rfl, owns⟩
      change ¬ c.fd < 0
      exact owns ▸ Int.not_lt.mpr (Int.le_of_lt positive)
  | disconnected fd recvMsg index c atFd notUdp notTcp here owner active => exact .nil _
  | requested recvMsg clients edited => exact .nil _

end TopicBroker
