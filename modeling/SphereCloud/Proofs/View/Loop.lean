import Mathlib.Data.List.TakeWhile
import SphereCloud.Proofs.View.Drawing
import SphereCloud.View.Session

/-!
Sessions over whole scripts: which frames are drawn, from which side, and what is shown and logged
of them.
-/

namespace SphereCloud

namespace Frame

def quits (f : Frame) : Bool :=
  f.controls.holds .escape

def isDrawable (f : Frame) : Bool :=
  fitsMemory 4 (f.width * f.height)

/-- The frame as it is if its picture can be presented. -/
def presented (f : Frame) : Frame :=
  { f with presentFails := false }

/-- The frames before the first one with escape held. -/
def reached (frames : List Frame) : List Frame :=
  frames.takeWhile (!·.quits)

/-- Of the frames reached those before the first one with more pixels than can be kept. -/
def drawn (frames : List Frame) : List Frame :=
  (reached frames).takeWhile (·.isDrawable)

end Frame

def Camera.after (c : Camera Float32) (frames : List Frame) : Camera Float32 :=
  frames.foldl (fun c f => c.update f.seconds f.controls) c

namespace Frame

variable {front : List Frame} {frame : Frame}

theorem reached_append (h : ∀ f ∈ front ++ [frame], ¬f.quits ∧ f.isDrawable) (back : List Frame) :
    reached (front ++ frame :: back) = front ++ frame :: reached back := by
  rw [reached, List.append_cons, List.takeWhile_append_of_pos fun f hf => by simp [(h f hf).1],
    ← List.append_cons, reached]

theorem drawn_append (h : ∀ f ∈ front ++ [frame], ¬f.quits ∧ f.isDrawable) (back : List Frame) :
    drawn (front ++ frame :: back) = front ++ frame :: drawn back := by
  rw [drawn, reached_append h, List.append_cons,
    List.takeWhile_append_of_pos fun f hf => (h f hf).2, ← List.append_cons, drawn]

theorem drawn_prefix_frames (frames : List Frame) : drawn frames <+: frames :=
  (List.takeWhile_prefix _).trans (List.takeWhile_prefix _)

theorem take_drawn {frames : List Frame} {k : Nat} (h : (drawn frames)[k]? = some frame) :
    (drawn frames).take (k + 1) = frames.take (k + 1) := by
  obtain ⟨hk, -⟩ := List.getElem?_eq_some_iff.mp h
  rw [List.prefix_iff_eq_take.mp (drawn_prefix_frames frames), List.take_take, Nat.min_eq_left hk]

theorem fits_of_mem_drawn {frames : List Frame} (h : frame ∈ drawn frames)
    (hword : fitsWord frame.width ∧ fitsWord frame.height) : Fits frame.width frame.height :=
  have hdrawable : frame.isDrawable = true := List.mem_takeWhile_imp h
  ⟨hword.1, hword.2, hdrawable⟩

end Frame

namespace Pixels

theorem resize_eq_ok {n : Nat} (h : fitsMemory 4 n) (pixels : Pixels) :
    ∃ out, pixels.resize n = .ok out ∧ out.size = n := by
  rw [resize, if_pos h]
  refine ⟨_, rfl, ?_⟩
  simp only [Array.size_append, Array.take_eq_extract, Array.size_extract, Array.size_replicate]
  omega

end Pixels

namespace Session

def serve (s : Session) (frame : Frame) (pixels : Pixels) : Session :=
  ({ s with mouseReads := s.mouseReads ++ [MouseMode.discard] }).present frame pixels

def serveAll (s : Session) (frames : List Frame) (pictures : List Pixels) : Session :=
  (frames.zip pictures).foldl (fun s p => s.serve p.1 p.2) s

def overflow (s : Session) : Session :=
  { s with
    mouseReads := s.mouseReads ++ [MouseMode.discard]
    result := .error (.painting .tooLarge) }

def unpresented : LogLine :=
  ⟨.error, "Failed to present frame: Failed to Update"⟩

theorem serve_eq (s : Session) (frame : Frame) (pixels : Pixels) :
    s.serve frame pixels =
      { s with
        mouseReads := s.mouseReads ++ [MouseMode.discard]
        shown := s.shown ++
          if frame.presentFails then [] else [⟨frame.width, frame.height, pixels⟩]
        log := s.log ++ if frame.presentFails then [unpresented] else [] } := by
  cases h : frame.presentFails with
  | false => simp [serve, present, h, Logged.ofExcept]
  | true => simp [serve, present, h, Logged.ofExcept, SphereCloud.log, unpresented]

/-- What the frames add to a session does not depend on what it was before. -/
theorem serveAll_eq (s : Session) (frames : List Frame) (pictures : List Pixels) :
    s.serveAll frames pictures =
      { s with
        mouseReads := s.mouseReads ++ (frames.zip pictures).map fun _ => MouseMode.discard
        shown := s.shown ++ ((frames.zip pictures).filter (!·.1.presentFails)).map
          fun p => ⟨p.1.width, p.1.height, p.2⟩
        log := s.log ++ ((frames.zip pictures).filter (·.1.presentFails)).map
          fun _ => unpresented } := by
  unfold serveAll
  induction frames.zip pictures generalizing s with
  | nil => simp
  | cons first rest ih =>
    rw [List.foldl_cons, ih, serve_eq]
    cases h : first.1.presentFails with
    | false => simp [h]
    | true => simp [h]

/-- One session is as another but for a picture of a frame, in place of which it has a line in the
log. -/
def Misses (s full : Session) (frame : Frame) : Prop :=
  ∃ shown picture shown' log log',
    full.shown = shown ++ ⟨frame.width, frame.height, picture⟩ :: shown' ∧ full.log = log ++ log' ∧
    s = { full with shown := shown ++ shown', log := log ++ unpresented :: log' }

theorem Misses.overflow {s full : Session} {frame : Frame} (h : s.Misses full frame) :
    s.overflow.Misses full.overflow frame := by
  obtain ⟨shown, picture, shown', log, log', hshown, hlog, rfl⟩ := h
  exact ⟨shown, picture, shown', log, log', hshown, hlog, rfl⟩

theorem misses_serveAll (s : Session) {frame : Frame} (hfails : frame.presentFails)
    {front : List Frame} {before : List Pixels} (hlength : front.length = before.length)
    (back : List Frame) (picture : Pixels) (later : List Pixels) :
    (s.serveAll (front ++ frame :: back) (before ++ picture :: later)).Misses
      (s.serveAll (front ++ frame.presented :: back)
        (before ++ picture :: later)) frame := by
  refine ⟨(s.serveAll front before).shown, picture,
    ((back.zip later).filter (!·.1.presentFails)).map fun p => ⟨p.1.width, p.1.height, p.2⟩,
    (s.serveAll front before).log,
    ((back.zip later).filter (·.1.presentFails)).map fun _ => unpresented, ?_, ?_, ?_⟩
  · simp [serveAll_eq, List.zip_append hlength, Frame.presented]
  · simp [serveAll_eq, List.zip_append hlength, Frame.presented]
  · simp [serveAll_eq, List.zip_append hlength, Frame.presented, hfails]

end Session

namespace Viewer

def after (v : Viewer) (frames : List Frame) : Viewer :=
  { v with camera := v.camera.after frames }

def picture (v : Viewer) (width height : Nat) : Pixels :=
  (v.draw width height (Array.replicate (width * height) 0)).toOption.getD #[]

/-- The pictures of frames, each seen by the camera of its moment. -/
def pictures (v : Viewer) : List Frame → List Pixels
  | [] => []
  | frame :: frames =>
    (v.after [frame]).picture frame.width frame.height :: (v.after [frame]).pictures frames

theorem draw_eq_picture (v : Viewer) {width height : Nat} (hfits : Fits width height)
    {pixels : Pixels} (hsize : pixels.size = width * height) :
    v.draw width height pixels = .ok (v.picture width height) := by
  have hnew : (Array.replicate (width * height) 0 : Pixels).size = width * height :=
    Array.size_replicate
  obtain ⟨out, hout, hshows⟩ := v.draw_shows hfits hsize
  obtain ⟨fresh, hfresh, hshows'⟩ := v.draw_shows hfits hnew
  have hpicture : v.picture width height = fresh := by
    rw [picture, hfresh]
    rfl
  rw [hout, hpicture, hshows.eq hshows']

theorem size_picture (v : Viewer) {width height : Nat} (hfits : Fits width height) :
    (v.picture width height).size = width * height := by
  have hnew : (Array.replicate (width * height) 0 : Pixels).size = width * height :=
    Array.size_replicate
  obtain ⟨out, hout, hshows⟩ := v.draw_shows hfits hnew
  rw [picture, hout]
  exact hshows.size_eq

@[simp] theorem length_pictures (v : Viewer) (frames : List Frame) :
    (v.pictures frames).length = frames.length := by
  induction frames generalizing v with
  | nil => rfl
  | cons frame frames ih => simp [pictures, ih]

theorem getElem?_pictures (v : Viewer) (frames : List Frame) (k : Nat) :
    (v.pictures frames)[k]? = frames[k]?.map fun frame =>
      (v.after (frames.take (k + 1))).picture frame.width frame.height := by
  induction frames generalizing v k with
  | nil => rfl
  | cons frame frames ih =>
    cases k with
    | zero => rfl
    | succ k =>
      rw [pictures, List.getElem?_cons_succ, List.getElem?_cons_succ, ih]
      rfl

theorem pictures_append (v : Viewer) (front back : List Frame) :
    v.pictures (front ++ back) = v.pictures front ++ (v.after front).pictures back := by
  induction front generalizing v with
  | nil => rfl
  | cons frame front ih =>
    rw [List.cons_append, pictures, pictures, ih]
    rfl

variable {frame : Frame} {frames : List Frame}

theorem runFrames_cons (v : Viewer) (pixels : Pixels) (session : Session) :
    v.runFrames pixels session (frame :: frames) =
      if frame.quits then session
      else
        match pixels.resize (frame.width * frame.height) >>=
          (v.after [frame]).draw frame.width frame.height with
        | .error fault => { session with
            mouseReads := session.mouseReads ++ [MouseMode.discard]
            result := .error (.painting fault) }
        | .ok picture =>
          (v.after [frame]).runFrames picture (session.serve frame picture) frames := rfl

/-- A frame is served with its own picture, whatever the pixels were before. -/
theorem runFrames_of_isDrawable (v : Viewer) (pixels : Pixels) (session : Session)
    (hstay : ¬frame.quits) (hword : fitsWord frame.width ∧ fitsWord frame.height)
    (hdrawable : frame.isDrawable) :
    v.runFrames pixels session (frame :: frames) =
      (v.after [frame]).runFrames ((v.after [frame]).picture frame.width frame.height)
        (session.serve frame ((v.after [frame]).picture frame.width frame.height)) frames := by
  have hfits : Fits frame.width frame.height := ⟨hword.1, hword.2, hdrawable⟩
  obtain ⟨blank, hblank, hsize⟩ := pixels.resize_eq_ok hdrawable
  rw [runFrames_cons, if_neg hstay, hblank, ok_bind, draw_eq_picture _ hfits hsize]

theorem runFrames_of_not_isDrawable (v : Viewer) (pixels : Pixels) (session : Session)
    (hstay : ¬frame.quits) (hdrawable : ¬frame.isDrawable) :
    v.runFrames pixels session (frame :: frames) = session.overflow := by
  have hresize : pixels.resize (frame.width * frame.height) = .error .tooLarge := if_neg hdrawable
  rw [runFrames_cons, if_neg hstay, hresize]
  rfl

/-- The loop serves every frame that it draws with its own picture. -/
theorem runFrames_eq (hwords : ∀ f ∈ frames, fitsWord f.width ∧ fitsWord f.height) (v : Viewer)
    (pixels : Pixels) (session : Session) :
    v.runFrames pixels session frames =
      let served := session.serveAll (Frame.drawn frames) (v.pictures (Frame.drawn frames))
      if (Frame.reached frames).all (·.isDrawable) then served else served.overflow := by
  induction frames generalizing v pixels session with
  | nil => rfl
  | cons frame frames ih =>
    obtain ⟨hframe, hframes⟩ := List.forall_mem_cons.mp hwords
    by_cases hquit : frame.quits
    · have hnone : Frame.reached (frame :: frames) = [] :=
        List.takeWhile_cons_of_neg (by simp [hquit])
      rw [runFrames_cons, if_pos hquit, Frame.drawn, hnone]
      rfl
    · have hreached : Frame.reached (frame :: frames) = frame :: Frame.reached frames :=
        List.takeWhile_cons_of_pos (by simp [hquit])
      rw [Frame.drawn, hreached, List.all_cons]
      by_cases hdrawable : frame.isDrawable
      · rw [runFrames_of_isDrawable v pixels session hquit hframe hdrawable, ih hframes,
          List.takeWhile_cons_of_pos hdrawable, hdrawable, Bool.true_and]
        rfl
      · rw [runFrames_of_not_isDrawable v pixels session hquit hdrawable,
          List.takeWhile_cons_of_neg hdrawable, if_neg (by simp [hdrawable])]
        rfl

theorem run_eq (v : Viewer) {script : Script} (hopens : script.opens = true)
    (hwords : ∀ f ∈ script.frames, fitsWord f.width ∧ fitsWord f.height) :
    v.run script =
      let served := Session.opened.serveAll (Frame.drawn script.frames)
        (v.pictures (Frame.drawn script.frames))
      if (Frame.reached script.frames).all (·.isDrawable) then served else served.overflow := by
  rw [run, if_pos hopens]
  exact runFrames_eq hwords v #[] .opened

/-- A frame that is drawn and not presented costs its own picture and a line in the log. -/
theorem run_misses (v : Viewer) {front back : List Frame} {frame : Frame}
    (hfails : frame.presentFails) (hdrawn : ∀ f ∈ front ++ [frame], ¬f.quits ∧ f.isDrawable)
    (hwords : ∀ f ∈ front ++ frame :: back, fitsWord f.width ∧ fitsWord f.height) :
    (v.run ⟨true, front ++ frame :: back⟩).Misses
      (v.run ⟨true, front ++ frame.presented :: back⟩) frame := by
  have hdrawn' : ∀ f ∈ front ++ [frame.presented], ¬f.quits ∧ f.isDrawable := by
    rw [List.forall_mem_append, List.forall_mem_singleton] at hdrawn ⊢
    exact hdrawn
  have hwords' : ∀ f ∈ front ++ frame.presented :: back, fitsWord f.width ∧ fitsWord f.height := by
    rw [List.forall_mem_append, List.forall_mem_cons] at hwords ⊢
    exact hwords
  have hall : (front ++ frame.presented :: Frame.reached back).all (·.isDrawable) =
      (front ++ frame :: Frame.reached back).all (·.isDrawable) := by
    rw [List.all_append, List.all_append]
    rfl
  have hserve := Session.opened.misses_serveAll hfails (v.length_pictures front).symm
    (Frame.drawn back) (((v.after front).after [frame]).picture frame.width frame.height)
    (((v.after front).after [frame]).pictures (Frame.drawn back))
  rw [v.run_eq rfl hwords, v.run_eq rfl hwords']
  simp only [Frame.reached_append hdrawn, Frame.drawn_append hdrawn, Frame.reached_append hdrawn',
    Frame.drawn_append hdrawn', pictures_append, pictures, hall]
  split
  · exact hserve
  · exact hserve.overflow

/-- A session draws the frames up to the first with escape held, or with more pixels than can be
kept, each on pixels of its own and seen by the camera as all frames so far turned it. It only fails
if the window does not open or a frame is too large: from `2 ^ 64` pixels on their number overflows
a word, and below that the capacity of the buffer overflows from `2 ^ 63` bytes on. A frame that is
not presented costs one line in the log and its own picture, and nothing else. -/
theorem run_serves_frames (v : Viewer) (script : Script)
    (hwords : ∀ f ∈ script.frames, fitsWord f.width ∧ fitsWord f.height) :
    (script.opens = false → v.run script = .refused) ∧
    (script.opens = true →
      (∃ pictures : List Pixels, pictures.length = (Frame.drawn script.frames).length ∧
        (∀ k frame, (Frame.drawn script.frames)[k]? = some frame →
          ∃ picture, pictures[k]? = some picture ∧ picture.size = frame.width * frame.height ∧
            ∀ fresh : Pixels, fresh.size = frame.width * frame.height →
              ({ v with camera := v.camera.after (script.frames.take (k + 1)) } : Viewer).draw
                frame.width frame.height fresh = .ok picture) ∧
        let served := Session.opened.serveAll (Frame.drawn script.frames) pictures
        ((∀ f ∈ Frame.reached script.frames, f.isDrawable) →
          Frame.drawn script.frames = Frame.reached script.frames ∧ v.run script = served ∧
            (v.run script).result = .ok ()) ∧
        ((∃ f ∈ Frame.reached script.frames, ¬f.isDrawable) → v.run script = served.overflow)) ∧
      ∀ front frame back, script.frames = front ++ frame :: back → frame.presentFails →
        (∀ f ∈ front ++ [frame], ¬f.quits ∧ f.isDrawable) →
          (v.run script).Misses
            (v.run ⟨true, front ++ frame.presented :: back⟩) frame) := by
  refine ⟨fun hopens => ?_, fun hopens =>
    ⟨⟨v.pictures (Frame.drawn script.frames), v.length_pictures _, ?_, ?_, ?_⟩, ?_⟩⟩
  · rw [run, hopens]
    rfl
  · intro k frame hframe
    have hmem : frame ∈ Frame.drawn script.frames := List.mem_of_getElem? hframe
    have hfits : Fits frame.width frame.height :=
      Frame.fits_of_mem_drawn hmem (hwords frame ((Frame.drawn_prefix_frames _).subset hmem))
    have hpicture := v.getElem?_pictures (Frame.drawn script.frames) k
    rw [hframe, Option.map_some, Frame.take_drawn hframe] at hpicture
    exact ⟨_, hpicture, size_picture _ hfits, fun fresh hfresh => draw_eq_picture _ hfits hfresh⟩
  · intro hall
    have hdrawn : Frame.drawn script.frames = Frame.reached script.frames :=
      List.takeWhile_eq_self_iff.mpr hall
    have hrun : v.run script = _ := v.run_eq hopens hwords
    rw [if_pos (List.all_eq_true.mpr hall)] at hrun
    refine ⟨hdrawn, hrun, ?_⟩
    rw [hrun, Session.serveAll_eq]
    rfl
  · intro htoo
    have hrun : v.run script = _ := v.run_eq hopens hwords
    rwa [if_neg (by simpa using htoo)] at hrun
  · intro front frame back hframes hfails hdrawn
    rw [hframes] at hwords
    have hscript : script = ⟨true, front ++ frame :: back⟩ := by rw [← hopens, ← hframes]
    rw [hscript]
    exact v.run_misses hfails hdrawn hwords

/-- Frames that grow and shrink, one of them not presented, before one with escape held. -/
theorem run_serves_frames_resized :
    let v : Viewer := ⟨⟨[["a", "b"]], true⟩, [⟨"b", [⟨1.0, 0.0, 0.0⟩], 0x00FFFFFF⟩], .initial⟩
    let turning : Frame := ⟨6, 4, 16000000, ⟨[.d], [], none, none⟩, false⟩
    let failing : Frame := ⟨12, 8, 17000000, ⟨[], [.left], some (0.0, 1.0), some (3.0, 4.0)⟩, true⟩
    let small : Frame := ⟨3, 2, 0, ⟨[.w], [], none, none⟩, false⟩
    let last : Frame := ⟨24, 16, 16000000, ⟨[.escape], [], none, none⟩, false⟩
    let script : Script := ⟨true, [turning, failing, small, last, turning]⟩
    (∃ pictures : List Pixels, pictures.length = 3 ∧
      v.run script = Session.opened.serveAll [turning, failing, small] pictures) ∧
    (v.run script).result = .ok () ∧
    (v.run script).Misses (v.run ⟨true, [turning, failing.presented, small, last, turning]⟩)
      failing := by
  intro v turning failing small last script
  have hwords : ∀ f ∈ script.frames, fitsWord f.width ∧ fitsWord f.height := by
    simp [script, turning, failing, small, last, fitsWord]
  have hdrawable : ∀ f ∈ Frame.reached script.frames, f.isDrawable := by
    simp [script, turning, failing, small, last, Frame.reached, Frame.quits, Controls.holds,
      Frame.isDrawable, fitsMemory]
  have hdrawn : ∀ f ∈ [turning] ++ [failing], ¬f.quits ∧ f.isDrawable := by
    simp [turning, failing, Frame.quits, Controls.holds, Frame.isDrawable, fitsMemory]
  obtain ⟨⟨pictures, hlength, -, hserved, -⟩, hmisses⟩ := (v.run_serves_frames script hwords).2 rfl
  obtain ⟨-, hrun, hresult⟩ := hserved hdrawable
  exact ⟨⟨pictures, hlength, hrun⟩, hresult,
    hmisses [turning] failing [small, last, turning] rfl rfl hdrawn⟩

/-- A session does not survive a frame with more pixels than can be kept. -/
theorem run_huge_frame :
    let frame : Frame := ⟨2147483647, 2147483647, 0, ⟨[], [], none, none⟩, true⟩
    (fitsWord frame.width ∧ fitsWord frame.height) ∧ ¬frame.quits ∧
      (initial.run ⟨true, [frame]⟩).result ≠ .ok () := by
  intro frame
  have hstay : ¬frame.quits := by decide
  have hlarge : ¬frame.isDrawable := by decide
  have hrun : initial.run ⟨true, [frame]⟩ = Session.opened.overflow := by
    rw [run, if_pos rfl, initial.runFrames_of_not_isDrawable _ _ hstay hlarge]
  refine ⟨by decide, hstay, ?_⟩
  rw [hrun]
  exact nofun

end Viewer

end SphereCloud
