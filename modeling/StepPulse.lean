import StepPulse.Block.Move
import StepPulse.Machine.Assembly
import StepPulse.Machine.Operation
import StepPulse.Proofs.Machine.Completion
import StepPulse.Proofs.Machine.Restart
import StepPulse.Proofs.Machine.Slots
import StepPulse.Settings.Reading
import StepPulse.Proofs.Segment.Partition
import StepPulse.Proofs.Segment.Schedule
import StepPulse.Proofs.Segment.Stream
import StepPulse.Proofs.Machine.Unsegmented
import StepPulse.Proofs.Machine.Lockstep
import StepPulse.Proofs.Machine.Hold
import StepPulse.Proofs.Machine.Travel
import StepPulse.Proofs.Machine.Supply
import StepPulse.Proofs.Machine.SetUp
import StepPulse.Proofs.Machine.Path
import StepPulse.Proofs.Machine.Alarm
import StepPulse.Proofs.Machine.Inversion
import StepPulse.Proofs.Machine.Renewal
import StepPulse.Proofs.Segment.Marks
import StepPulse.Proofs.Machine.Descent
import StepPulse.Proofs.Block.Log
import StepPulse.Proofs.Segment.Fifo
import StepPulse.Proofs.Machine.Refusal
import StepPulse.Proofs.Machine.Stranded
import StepPulse.Proofs.Machine.Notice
import StepPulse.Proofs.Machine.Boundary
import StepPulse.Proofs.Segment.Worklist
import StepPulse.Proofs.Machine.Worklist
import StepPulse.Proofs.Machine.Arrears
import StepPulse.Proofs.Machine.InverseTime
import StepPulse.Proofs.Ramp.Discipline
import StepPulse.Proofs.Ramp.Triangle
import StepPulse.Proofs.Machine.Accumulators
import StepPulse.Proofs.Ramp.ClosedForm
import StepPulse.Proofs.Machine.Execution
import StepPulse.Proofs.Machine.Guard
import StepPulse.Proofs.Block.Description
