import PulseProgram.Main
import PulseProgram.Proofs.Binary64.FixedText
import PulseProgram.Proofs.ChannelMap.Registration
import PulseProgram.Proofs.Daq.Samples
import PulseProgram.Proofs.Playback.TableLimits
import PulseProgram.Proofs.Sequencer.Advance
import PulseProgram.Proofs.Sequencer.Agreement
import PulseProgram.Proofs.Sequencer.Atomicity
import PulseProgram.Proofs.Sequencer.CarryForward
import PulseProgram.Proofs.Sequencer.Decoding
import PulseProgram.Proofs.Sequencer.Drift
import PulseProgram.Proofs.Sequencer.RowSpacing
import PulseProgram.Proofs.Sequencer.Spacing
import PulseProgram.Proofs.Sequencer.WholeTicks
import PulseProgram.Proofs.Serial.Exits
import PulseProgram.Proofs.Serial.Pieces
import PulseProgram.Proofs.SynthTable.Windows
import PulseProgram.Proofs.Synthesizer.EntryFields
import PulseProgram.Proofs.Synthesizer.Freshness
import PulseProgram.Proofs.Synthesizer.Script
import PulseProgram.Proofs.Synthesizer.SettingRanges
import PulseProgram.Proofs.Text.Numerals
import PulseProgram.Proofs.Timing.Projection
import PulseProgram.Proofs.Update.Complaints
import PulseProgram.Proofs.Word.Lines
import PulseProgram.Proofs.Word.Voltage
import PulseProgram.Rehearsal.Bench
import PulseProgram.Rehearsal.Library
