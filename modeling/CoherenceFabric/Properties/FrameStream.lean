import CoherenceFabric.Codec.Protocol

/-!
Frames survive the stream they are sent on.

A reader of the stream gets back the frames that were written, in order and with their headers and
bodies, up to wherever the stream is cut; then it is refused.
-/

namespace CoherenceFabric

open Codec

/-- Calls of `read_frame` on one connection, up to the first that fails. -/
def readFrames (limits : FrameLimits) : Nat → Bytes → List Frame × Option Status :=
  readUntil (readFrame limits)

lemma readFrame_nil (limits : FrameLimits) (r : Frame × Bytes) :
    (readFrame limits).run [] ≠ .ok r := by
  intro h
  obtain ⟨-, heq⟩ := (reads_frame limits).iff.mp h
  have hlength := congrArg List.length heq
  simp [encodeFrame, kFrameHeaderSize] at hlength
  omega

/-- Frames that are sent one after the other are read back in order, and then no further frame is;
from a stream that is cut anywhere, the frames wholly in front of the cut are read, and then an
error is returned. -/
theorem frames_survive_stream (limits : FrameLimits) (frames : List Frame)
    (hframes : ∀ frame ∈ frames, frame.Sendable limits) :
    (∀ calls, frames.length < calls →
      ∃ status, readFrames limits calls (frames.flatMap encodeFrame) = (frames, some status)) ∧
    ∀ n ≤ (frames.flatMap encodeFrame).length, ∀ calls, frames.length < calls →
      ∃ status, readFrames limits calls ((frames.flatMap encodeFrame).take n) =
        (frames.take (contained encodeFrame frames n), some status) := by
  constructor
  · intro calls hcalls
    have hread := (reads_frame limits).readUntil_stream (readFrame_nil limits) hframes hcalls
    rwa [List.append_nil] at hread
  intro n hn calls hcalls
  obtain ⟨torn, htake, htorn⟩ := take_stream encodeFrame frames n hn
  have hrefused : ∀ r, (readFrame limits).run torn ≠ .ok r := by
    rcases htorn with rfl | ⟨frame, hmem, tail, htail, heq⟩
    · exact readFrame_nil limits
    · exact (reads_frame limits).prefix_refused (hframes frame hmem) heq htail
  rw [htake]
  refine (reads_frame limits).readUntil_stream hrefused
    (fun frame hmem => hframes frame (List.mem_of_mem_take hmem)) ?_
  rw [List.length_take]
  omega

theorem frames_survive_stream_ping :
    ∃ status, readFrames {} 3 (([⟨{ version := 1, type := .ping, sequence := 1 }, [7]⟩,
        ⟨{ version := 1, type := .goodbye, sequence := 2 }, []⟩].flatMap encodeFrame).take 90) =
      ([⟨{ version := 1, type := .ping, sequence := 1 }, [7]⟩], some status) := by
  refine (frames_survive_stream {} _ ?_).2 90 (by decide +kernel) 3 (by decide)
  intro frame hmem
  simp only [List.mem_cons, List.not_mem_nil, or_false] at hmem
  rcases hmem with rfl | rfl
  · exact ⟨rfl, nofun, by decide⟩
  · exact ⟨rfl, nofun, by decide⟩

end CoherenceFabric
