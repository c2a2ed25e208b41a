import FlexivAmr.Cleanup
import FlexivAmr.CommandLine
import FlexivAmr.PauseResume
import FlexivAmr.Verdict
import FlexivAmr.Control
import FlexivAmr.Interaction.Bound
import FlexivAmr.Stop
import FlexivAmr.Timing
import FlexivAmr.Pacing
import FlexivAmr.Start
import FlexivAmr.Fate
import FlexivAmr.Motion.Timing
import FlexivAmr.Audio.Delivery
import FlexivAmr.Basic.Requests
import FlexivAmr.Python.Equivalence
import FlexivAmr.Python.Basic
import FlexivAmr.Python.Motion.Safety
import FlexivAmr.Python.Audio.Delivery
