import Mathlib
import Drafting.Proofs.Record

/-!
# What connecting holds and what it leaves half done

`Link.connect` takes the automation library into use, connects to a running application
or starts one, and takes its active document.  It reaches the application before it
takes the document, and starting an application shows it and waits for it first: a
start that fails on one of those later steps keeps the application it reached.  So a
connection that answers `false` has the document and the model space it had before,
but it may hold the application now.  It stops with a fault only when the configured
kind of application is not a text.

`Service.ensureReady` marks the service ready when it connected and never unmarks it;
closing the connection does not either.  So the service may count itself ready while
the connection holds the application but no model space.
-/

namespace Drafting

open Std.Do

set_option mvcgen.warning false

/-- What the connection holds: the application, its document and the model space. -/
def Link.held (l : Link) : Bool × Bool × Bool := (l.app, l.doc, l.modelSpace)

/-- Whether the connection holds the model space only together with its document. -/
def Link.Coherent (l : Link) : Prop := l.modelSpace = true → l.doc = true

/-- A request changes the host alone; a refused one changes nothing. -/
theorem Op.request_service (σ₀ : Station) (r : Request) :
    ⦃fun σ => ⌜σ = σ₀⌝⦄ Op.request r
    ⦃post⟨fun _ σ => ⌜σ.service = σ₀.service⌝, fun _ σ => ⌜σ = σ₀⌝⟩⦄ := by
  unfold Op.request
  mvcgen
  all_goals simp_all

/-- Changing the connection changes nothing else. -/
theorem Op.modifyLink_link (σ₀ : Station) (f : Link → Link) :
    ⦃fun σ => ⌜σ = σ₀⌝⦄ Op.modifyLink f
    ⦃post⟨fun _ σ => ⌜σ = { σ₀ with service := { σ₀.service with link := f σ₀.service.link } }⌝,
      fun _ _ => ⌜False⌝⟩⦄ := by
  unfold Op.modifyLink
  mvcgen
  all_goals simp_all +zetaDelta

/-- Reading the connection answers it and changes nothing. -/
theorem Op.link_answers (σ₀ : Station) :
    ⦃fun σ => ⌜σ = σ₀⌝⦄ Op.link
    ⦃post⟨fun l σ => ⌜σ = σ₀ ∧ l = σ₀.service.link⌝, fun _ _ => ⌜False⌝⟩⦄ := by
  unfold Op.link
  mvcgen
  all_goals simp_all

/-- A value gives a text exactly when it is one. -/
theorem Value.textFor_eq_ok (v : Value) (method s : String) :
    v.textFor method = .ok s ↔ v = .str s := by
  cases v <;> simp [Value.textFor]

/-- What connecting leaves alone: the settings, the record, the readiness, and how the
connection is configured. -/
def Station.fixed (σ : Station) : (Settings × Drawing × Bool) × LinkConfig :=
  (σ.rest, σ.service.link.config)

/-- Whether the configuration names its application by a text, as connecting needs. -/
def LinkConfig.namesKind (c : LinkConfig) : Bool :=
  match c.application with
  | .ok (.str _) => true
  | _ => false

namespace Link

variable (σ₀ : Station)

theorem initLibrary_held :
    ⦃fun σ => ⌜σ = σ₀⌝⦄ initLibrary
    ⦃post⟨fun _ σ => ⌜σ.fixed = σ₀.fixed ∧ σ.service.link.held = σ₀.service.link.held⌝,
      fun _ _ => ⌜False⌝⟩⦄ := by
  unfold initLibrary attempt
  mvcgen [Op.request_service, Op.modifyLink_link]
  all_goals simp_all +zetaDelta [Station.fixed, Station.rest, Link.held]

theorem attach_held (pid : String) :
    ⦃fun σ => ⌜σ = σ₀⌝⦄ attach pid
    ⦃post⟨fun _ σ => ⌜σ.fixed = σ₀.fixed ∧ σ.service.link.held = (true, σ₀.service.link.held.2)⌝,
      fun _ σ => ⌜σ.fixed = σ₀.fixed ∧ σ.service.link.held = σ₀.service.link.held⌝⟩⦄ := by
  unfold attach
  mvcgen [Op.request_service, Op.modifyLink_link]
  all_goals simp_all +zetaDelta [Station.fixed, Station.rest, Link.held]

/-- Starting an application holds it as soon as it is dispatched; showing it and
waiting for it come after, and may fail with the application held. -/
theorem launch_held (pid : String) :
    ⦃fun σ => ⌜σ = σ₀⌝⦄ launch pid
    ⦃post⟨fun _ σ => ⌜σ.fixed = σ₀.fixed ∧ σ.service.link.held = (true, σ₀.service.link.held.2)⌝,
      fun _ σ => ⌜σ.fixed = σ₀.fixed ∧ σ.service.link.held.2 = σ₀.service.link.held.2⌝⟩⦄ := by
  unfold launch
  mvcgen [Op.request_service, Op.modifyLink_link]
  all_goals simp_all +zetaDelta [Station.fixed, Station.rest, Link.held]

theorem openDocument_held :
    ⦃fun σ => ⌜σ = σ₀⌝⦄ openDocument
    ⦃post⟨fun _ σ => ⌜σ.fixed = σ₀.fixed ∧
        σ.service.link.held = (σ₀.service.link.held.1, true, true)⌝,
      fun _ σ => ⌜σ.fixed = σ₀.fixed ∧ σ.service.link.held = σ₀.service.link.held⌝⟩⦄ := by
  unfold openDocument
  mvcgen [Op.request_service, Op.modifyLink_link]
  all_goals simp_all +zetaDelta [Station.fixed, Station.rest, Link.held]

/-- Connecting stops with a fault exactly when the configuration names no kind of
application, having changed nothing it holds.  Otherwise an answer `true` holds all
three, and an answer `false` keeps the document and the model space it had. -/
theorem connect_held :
    ⦃fun σ => ⌜σ = σ₀⌝⦄ connect
    ⦃post⟨fun b σ => ⌜σ.fixed = σ₀.fixed ∧ σ₀.service.link.config.namesKind = true ∧
        (b = true → σ.service.link.held = (true, true, true)) ∧
        (b = false → σ.service.link.held.2 = σ₀.service.link.held.2)⌝,
      fun _ σ => ⌜σ.fixed = σ₀.fixed ∧ σ₀.service.link.config.namesKind = false ∧
        σ.service.link.held = σ₀.service.link.held⌝⟩⦄ := by
  unfold connect attempt
  -- without its own closing attempts, which try to decide equations between whole stations,
  -- mvcgen leaves every condition to simp_all
  mvcgen -trivial [Op.link_answers, initLibrary_held, attach_held, launch_held, openDocument_held]
  all_goals simp_all +zetaDelta [Station.fixed, Station.rest, Link.held, LinkConfig.namesKind,
    Value.textFor_eq_ok]
  -- the one goal left: a kind that gives no text is no text
  split <;> simp_all [Value.textFor]

theorem releaseLibrary_held :
    ⦃fun σ => ⌜σ = σ₀⌝⦄ releaseLibrary
    ⦃post⟨fun _ σ => ⌜σ.fixed = σ₀.fixed ∧ σ.service.link.held = σ₀.service.link.held⌝,
      fun _ _ => ⌜False⌝⟩⦄ := by
  unfold releaseLibrary attempt
  mvcgen [Op.request_service, Op.modifyLink_link, Op.link_answers]
  all_goals simp_all +zetaDelta [Station.fixed, Station.rest, Link.held]

/-- Closing lets go of the application, its document and the model space, and of the
library when it holds it; a refused release is passed over, so closing never faults. -/
theorem close_held :
    ⦃fun σ => ⌜σ = σ₀⌝⦄ close
    ⦃post⟨fun _ σ => ⌜σ.fixed = σ₀.fixed ∧ σ.service.link.held = (false, false, false)⌝,
      fun _ _ => ⌜False⌝⟩⦄ := by
  have hrelease := @releaseLibrary_held
  unfold close
  mvcgen [Op.modifyLink_link, hrelease]
  all_goals simp_all +zetaDelta [Station.fixed, Station.rest, Link.held]

/-- Saving reads the connection, writes the disk and asks the application to save; it
leaves the connection as it is, and a fault on the way is answered as a refusal. -/
theorem save_held (room : Nat) (path : Value) :
    ⦃fun σ => ⌜σ = σ₀⌝⦄ save room path
    ⦃post⟨fun _ σ => ⌜σ.service.link = σ₀.service.link⌝, fun _ _ => ⌜False⌝⟩⦄ := by
  unfold save
  mvcgen [Op.link_answers, Op.request_service]
  all_goals simp_all +zetaDelta

/-- Setting the connection up anew holds nothing. -/
theorem reset_held (config : Value) :
    ⦃fun σ => ⌜σ = σ₀⌝⦄ reset config
    ⦃post⟨fun _ σ => ⌜σ.rest = σ₀.rest ∧ σ.service.link.held = (false, false, false)⌝,
      fun _ _ => ⌜False⌝⟩⦄ := by
  unfold reset
  mvcgen [Op.modifyLink_link]
  all_goals simp_all +zetaDelta [Station.rest, Link.held]

/-- Connecting keeps the model space with its document: it takes both together, or keeps
both as they were. -/
theorem connect_coherent (hσ₀ : σ₀.service.link.Coherent) :
    ⦃fun σ => ⌜σ = σ₀⌝⦄ connect
    ⦃post⟨fun _ σ => ⌜σ.service.link.Coherent⌝, fun _ σ => ⌜σ.service.link.Coherent⌝⟩⦄ := by
  have hheld := connect_held σ₀
  mvcgen [hheld]
  all_goals clear hheld
  all_goals simp_all [Link.Coherent, Link.held]
  -- left: an answer, `true` holding all three and `false` the document and model space it had
  rename_i b τ _
  intro _ _ htrue hfalse hspace
  cases b with
  | true => exact (htrue rfl).2.1
  | false =>
    obtain ⟨hdoc, hms⟩ := hfalse rfl
    rw [hdoc]
    exact hσ₀ (hms ▸ hspace)

theorem alive_answers :
    ⦃fun σ => ⌜σ = σ₀⌝⦄ alive
    ⦃post⟨fun b σ => ⌜σ = σ₀ ∧ b = (σ₀.service.link.app && !σ₀.host.unplugged)⌝,
      fun _ _ => ⌜False⌝⟩⦄ := by
  unfold alive
  mvcgen [Op.link_answers]
  all_goals simp_all

end Link

/-- The service marks itself ready when connecting answers `true` and never unmarks
itself.  It answers `true` only holding the application, and holding the model space
too unless it was ready already with the application answering. -/
theorem Service.ensureReady_ready (σ₀ : Station) :
    ⦃fun σ => ⌜σ = σ₀⌝⦄ Service.ensureReady
    ⦃post⟨fun b σ => ⌜σ.service.ready = (σ₀.service.ready || b) ∧
        (b = true → σ.service.link.app = true) ∧
        ((σ₀.service.ready && σ₀.service.link.app && !σ₀.host.unplugged) = false →
          b = true → σ.service.link.modelSpace = true)⌝,
      fun _ σ => ⌜σ₀.service.link.config.namesKind = false ∧
        σ.service.ready = σ₀.service.ready ∧ σ.service.link.held = σ₀.service.link.held⌝⟩⦄ := by
  unfold Service.ensureReady
  mvcgen -trivial [Link.alive_answers, Link.connect_held, Op.modifyService]
  all_goals simp_all +zetaDelta [Station.fixed, Station.rest, Link.held]

/-- What connecting, getting ready and closing promise together: connecting faults only
on a configuration that names no kind of application, a `false` answer keeps the document
and the model space but may hold a new application, and the service's readiness is the
readiness it had or the success of connecting.  Closing lets go of everything the
connection holds and keeps the readiness as it was, so nothing resets it. -/
theorem Service.ready_follows_connect (σ₀ : Station) :
    ⦃fun σ => ⌜σ = σ₀⌝⦄ Link.connect
    ⦃post⟨fun b σ => ⌜σ.fixed = σ₀.fixed ∧ σ₀.service.link.config.namesKind = true ∧
        (b = true → σ.service.link.held = (true, true, true)) ∧
        (b = false → σ.service.link.held.2 = σ₀.service.link.held.2)⌝,
      fun _ σ => ⌜σ.fixed = σ₀.fixed ∧ σ₀.service.link.config.namesKind = false ∧
        σ.service.link.held = σ₀.service.link.held⌝⟩⦄ ∧
    ⦃fun σ => ⌜σ = σ₀⌝⦄ Service.ensureReady
    ⦃post⟨fun b σ => ⌜σ.service.ready = (σ₀.service.ready || b) ∧
        (b = true → σ.service.link.app = true) ∧
        ((σ₀.service.ready && σ₀.service.link.app && !σ₀.host.unplugged) = false →
          b = true → σ.service.link.modelSpace = true)⌝,
      fun _ σ => ⌜σ₀.service.link.config.namesKind = false ∧
        σ.service.ready = σ₀.service.ready ∧ σ.service.link.held = σ₀.service.link.held⌝⟩⦄ ∧
    ⦃fun σ => ⌜σ = σ₀⌝⦄ Link.close
    ⦃post⟨fun _ σ => ⌜σ.service.ready = σ₀.service.ready ∧
        σ.service.link.held = (false, false, false)⌝,
      fun _ _ => ⌜False⌝⟩⦄ := by
  refine ⟨Link.connect_held σ₀, Service.ensureReady_ready σ₀, ?_⟩
  -- the readiness is one part of what closing keeps fixed
  have hclose := Link.close_held σ₀
  mvcgen [hclose]
  all_goals simp_all [Station.fixed, Station.rest]

/-- Starting the application on a station where no instance runs and the application
refuses to be shown: connecting answers `false` and holds the application it started. -/
theorem failed_start_holds_application :
    let σ : Station := ⟨{ reachable := false, refusing := ["set:Visible"] },
      ⟨"/work", [], .empty, .empty⟩, Service.ofSettings Settings.shipped⟩
    let run := Link.connect.run.run σ
    run.1.toOption = some false ∧ σ.service.link.app = false ∧ run.2.service.link.app = true := by
  refine ⟨?_, ?_, ?_⟩ <;> decide +kernel

end Drafting
