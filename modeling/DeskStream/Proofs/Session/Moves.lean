import DeskStream.Proofs.Session.Tasks
/-!
# What a step comes to

A step that is not due is nothing, and any other is one operation on the activity it names
(`move_step`). What steps keep is a case analysis over `Move`, and does not look at the step again.
-/

namespace DeskStream.Session

open Wire

/-- What a step comes to. -/
inductive Move (s : Session) (m : Moment) : Event → Session → Prop where
  /-- Nothing is due. -/
  | rest {e : Event} : Move s m e s
  /-- A call of the user begins. -/
  | call {e : Event} (task : Task) (hp : task.isPlain) (hw : task.isWrite = false)
    (hs : task.isSending = task.isSend) : Move s m e (s.spawn task)
  | connect (t call : Nat) (peer : Peer) (h : s.task? t = some (.connect call peer)) (hj : s.isLeaving = false) :
    Move s m (.run t) (s.connect t call peer)
  | disconnect (t call : Nat) (h : s.task? t = some (.disconnect call)) (hj : s.isLeaving = false) :
    Move s m (.run t) (s.disconnect t call)
  | joined (t call link : Nat) (h : s.task? t = some (.join call link)) (he : s.isListening link = false) :
    Move s m (.run t) (s.joined t call)
  | beginSend (t : Nat) (origin : Origin) (kind : PacketKind) (payload : Bytes)
    (h : s.task? t = some (.send origin kind payload)) : Move s m (.run t) (s.beginSend t origin kind payload)
  | beginWrite (t : Nat) (origin : Origin) (kind : PacketKind) (payload : Bytes)
    (h : s.task? t = some (.queued origin kind payload)) : Move s m (.run t) (s.beginWrite m t origin kind payload)
  | close (t link : Nat) (h : s.task? t = some (.close link)) :
    Move s m (.run t) { s.erase t with closed := s.closed ++ [link] }
  /-- A receive loop that was told to ends. -/
  | unlisten (t : Nat) (l : Link) (h : s.task? t = some (.listen l true)) : Move s m (.run t) (s.erase t)
  | dialDone (t : Nat) (call : Option Nat) (g : Nat) (peer : Peer) (result : Except TransportError Unit)
    (h : s.task? t = some (.dial call g peer)) : Move s m (.dialDone t result) (s.dialDone t call g result)
  | intervalOver (t g : Nat) (h : s.task? t = some (.timer g)) : Move s m (.intervalOver t) (s.intervalOver t g)
  | writeDone (t : Nat) (origin : Origin) (l : Link) (sequence : UInt32) (message : Bytes)
    (result : Except TransportError Unit) (h : s.task? t = some (.write origin l sequence message)) :
    Move s m (.writeDone t result) (s.writeDone t origin l sequence message result)
  | receive (t : Nat) (l : Link) (message : Bytes) (h : s.task? t = some (.listen l false)) :
    Move s m (.receive t message) (s.receive m l.generation message)
  | linkEnded (t : Nat) (l : Link) (reason : String) (h : s.task? t = some (.listen l false)) :
    Move s m (.linkEnded t reason) (s.linkEnded t l.generation reason)
  | tick : Move s m .tick { s with metrics := s.metrics.tick m.mono }
  | work (action : VideoPath.Action) :
    Move s m (.work action) { s with pipeline := { s.pipeline with video := s.pipeline.video.work action } }
  | pop : Move s m .pop { s with pipeline := s.pipeline.pop.1 }
  | setVolume (volume : Float32) : Move s m (.setVolume volume) { s with pipeline := s.pipeline.setVolume volume }
  | authenticate (credentials : Credentials) (fresh : Draw) :
    Move s m (.authenticate credentials fresh) { s with ring := (s.ring.authenticate credentials fresh).1 }
  | logout : Move s m .logout { s with ring := s.ring.logout }
  | letGo : Move s m .letGo s.letGo
  | free : Move s m .free s.free

theorem move_resume (s : Session) (m : Moment) {t : Nat} {task : Task} (h : s.task? t = some task) :
    Move s m (.run t) (s.resume m t task) := by
  cases task with
  | connect call peer =>
    cases hj : s.isLeaving <;> simp only [resume, hj, if_true, Bool.false_eq_true, if_false]
    · exact .connect t call peer h hj
    · exact .rest
  | disconnect call =>
    cases hj : s.isLeaving <;> simp only [resume, hj, if_true, Bool.false_eq_true, if_false]
    · exact .disconnect t call h hj
    · exact .rest
  | join call link =>
    cases he : s.isListening link <;> simp only [resume, he, if_true, Bool.false_eq_true, if_false]
    · exact .joined t call link h he
    · exact .rest
  | send origin kind payload => exact .beginSend t origin kind payload h
  | queued origin kind payload =>
    simp only [resume]
    split
    · exact .rest
    · exact .beginWrite t origin kind payload h
  | close link => exact .close t link h
  | listen l cancelled =>
    cases cancelled with
    | true => exact .unlisten t l h
    | false => exact .rest
  | dial | write | timer => exact .rest

theorem move_step (s : Session) (m : Moment) (e : Event) : Move s m e (s.step m e) := by
  cases e with
  | callConnect | callDisconnect | callSend => exact .call _ rfl rfl rfl
  | run t =>
    simp only [step]
    split
    · rename_i task h
      exact move_resume s m h
    · exact .rest
  | dialDone t result =>
    simp only [step]
    split
    · rename_i call g peer h
      exact .dialDone t call g peer result h
    · exact .rest
  | intervalOver t =>
    simp only [step]
    split
    · rename_i g h
      exact .intervalOver t g h
    · exact .rest
  | writeDone t result =>
    simp only [step]
    split
    · rename_i origin l sequence message h
      exact .writeDone t origin l sequence message result h
    · exact .rest
  | receive t message =>
    simp only [step]
    split
    · rename_i l h
      exact .receive t l message h
    · exact .rest
  | linkEnded t reason =>
    simp only [step]
    split
    · rename_i l h
      exact .linkEnded t l reason h
    · exact .rest
  | tick => exact .tick
  | work action => exact .work action
  | pop => exact .pop
  | setVolume volume => exact .setVolume volume
  | authenticate credentials fresh => exact .authenticate credentials fresh
  | logout => exact .logout
  | letGo => exact .letGo
  | free => exact .free

end DeskStream.Session
