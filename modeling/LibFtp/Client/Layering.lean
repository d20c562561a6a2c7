import LibFtp.Client.Frame
import LibFtp.Client.Exchange
import LibFtp.Effect.Temporal

/-! The layer through which the control connection is read: the one that its socket was
last set to. -/

namespace LibFtp

open Effect

namespace Client

/-- The layer of the control connection, as far as the events set it. -/
def layerAfter (layer : Layer) : BoundaryEvent → Layer
  | ⟨.setSsl .control next, _⟩ => next
  | _ => layer

/-- What is read from the control connection is read through the given layer. -/
def ReadsThrough (layer : Layer) (event : BoundaryEvent) : Prop :=
  ∀ read maxSize, event.query = .readSome .control read maxSize → read = layer

private abbrev layers : Monitor boundary (Layer × Prop) := watch layerAfter ReadsThrough

private abbrev Layered : Client → Layer × Prop → Prop :=
  Watched fun client layer => client.control.socket.layer = layer

private theorem layers_step {moment after : Layer × Prop} {event : BoundaryEvent}
    (step : layers.step moment event after) (still : layerAfter moment.1 event = moment.1)
    (through : ReadsThrough moment.1 event) (fine : moment.2) : after.1 = moment.1 ∧ after.2 := by
  have step : after = watching layerAfter ReadsThrough moment event := step
  subst step
  exact ⟨still, fine, through⟩

private theorem layers_steady (layer : Layer) :
    Steady layers layer fun moment => moment.1 = layer ∧ moment.2 := by
  intro moment ⟨query, answer⟩ after link ⟨same, fine⟩ step
  subst same
  have both : layerAfter moment.1 ⟨query, answer⟩ = moment.1 ∧
      ReadsThrough moment.1 ⟨query, answer⟩ := by
    cases link with
    | closing closing => cases closing <;> exact ⟨rfl, fun _ _ other => by cases other⟩
    | readSome => exact ⟨rfl, fun _ _ other => by cases other; rfl⟩
    | _ => exact ⟨rfl, fun _ _ other => by cases other⟩
  exact layers_step step both.1 both.2 fine

private theorem onControl_layered {program : Method ControlConnection Value}
    (stays : ∀ layer, program.Keeps layers
      (ControlConnection.Stays layer fun moment => moment.1 = layer ∧ moment.2)
      (ControlConnection.Stays layer fun moment => moment.1 = layer ∧ moment.2)) :
    (onControl program).Keeps layers Layered Layered := by
  intro fuel client moment ⟨same, fine⟩
  simp only [onControl, Program.wp_zoom]
  refine (stays moment.1 fuel).apply ⟨same, rfl, fine⟩ ?_ ?_
  · exact fun _ _ _ stayed => ⟨stayed.1.trans stayed.2.1.symm, stayed.2.2⟩
  · exact fun _ _ _ stayed => ⟨stayed.1.trans stayed.2.1.symm, stayed.2.2⟩

/-- A question that neither sets the layer nor reads. -/
private def Apart (query : Boundary.Query) : Prop :=
  ∀ layer answer,
    layerAfter layer ⟨query, answer⟩ = layer ∧ ReadsThrough layer ⟨query, answer⟩

private theorem request_apart (observers : List ObserverId) (command : Bytes) :
    Apart (.notifyRequest observers command) :=
  fun _ _ => ⟨rfl, fun _ _ other => by cases other⟩

private theorem reply_apart (observers : List ObserverId) (reply : Reply) :
    Apart (.notifyReply observers reply) :=
  fun _ _ => ⟨rfl, fun _ _ other => by cases other⟩

private theorem write_apart (layer : Layer) (data : Bytes) : Apart (.write .control layer data) :=
  fun _ _ => ⟨rfl, fun _ _ other => by cases other⟩

private theorem unopened_apart (layer : Layer) (request : SocketCall) :
    Apart (.unopened .control layer request) :=
  fun _ _ => ⟨rfl, fun _ _ other => by cases other⟩

private theorem quiet_apart {query : Boundary.Query} (quiet : Quiet query) : Apart query := by
  intro layer answer
  cases quiet <;> exact ⟨rfl, fun _ _ other => by cases other⟩

private theorem apart_layered {query : Boundary.Query} (apart : Apart query) {client : Client}
    {moment after : Layer × Prop} {answer : Boundary.Answer query} (layered : Layered client moment)
    (step : layers.step moment ⟨query, answer⟩ after) : Layered client after := by
  obtain ⟨still, through⟩ := apart moment.1 answer
  obtain ⟨same, fine⟩ := layers_step step still through layered.2
  exact ⟨layered.1.trans same.symm, fine⟩

private theorem recv_layered : recv.Keeps layers Layered Layered := by
  refine .bind (onControl_layered fun layer => ControlConnection.recv_stays (layers_steady layer))
    fun reply => .bind (.bind .get fun client => .ask ?_) fun _ => .pure _
  exact fun _ _ _ _ layered step => apart_layered (reply_apart _ _) layered step

private theorem send_layered (command : Bytes) : (send command).Keeps layers Layered Layered := by
  intro fuel client moment layered
  have announced {requested : Layer × Prop}
      (heard : layers.step moment ⟨.notifyRequest client.observers command, ()⟩ requested) :
      Layered client requested :=
    apart_layered (request_apart _ _) layered heard
  apply send_rule
  · exact fun _ _ _ heard step => apart_layered (write_apart _ _) (announced heard) step
  · exact fun _ _ _ _ heard step => apart_layered (write_apart _ _) (announced heard) step
  · exact fun _ _ _ _ heard step => apart_layered (unopened_apart _ _) (announced heard) step

/-- The socket is read through the layer that it was set to, whatever the client does. -/
theorem layered_upholds : UpholdsLink layers Layered Layered (fun _ => True) where
  stops _ _ layered := layered
  quiet _ _ _ _ _ quiet layered step := apart_layered (quiet_apart quiet) layered step
  settings _ _ _ _ _ _ layered := layered
  exchange command _ := .bind (send_layered command) fun _ => recv_layered
  receive := recv_layered
  opens hostname port := onControl_layered fun layer =>
    ControlConnection.connect_stays (layers_steady layer) hostname port
  switches layer := by
    intro fuel client moment ⟨_, fine⟩
    simp only [onControl, ControlConnection.setSsl, ControlConnection.onSocket, Program.wp_zoom,
      Socket.wp_setSsl]
    intro answer after step
    have step : after = watching layerAfter ReadsThrough moment ⟨.setSsl .control layer, answer⟩ :=
      step
    subst step
    exact ⟨rfl, fine, fun _ _ other => by cases other⟩
  handshakes := onControl_layered fun layer =>
    ControlConnection.sslHandshake_stays (layers_steady layer)
  shutsDown := onControl_layered fun layer =>
    ControlConnection.sslShutdown_stays (layers_steady layer)
  closes := onControl_layered fun layer =>
    ControlConnection.closeSteps_stays (layers_steady layer)

end Client

end LibFtp
