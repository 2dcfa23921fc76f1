import InputMask.Cache
import InputMask.CommandLine.Run
import InputMask.Main
import InputMask.Proofs.Format.FixedPoint
import InputMask.Proofs.Format.ValueRoundTrip
import InputMask.Proofs.Format.GroupRoundTrip
import InputMask.Proofs.Format.Held
import InputMask.Proofs.Format.Filled
import InputMask.Proofs.Format.Noise
import InputMask.Proofs.Format.Stability
import InputMask.Proofs.Format.Prompt
import InputMask.Proofs.Format.Ranges
import InputMask.Proofs.Caret.Edit
import InputMask.Proofs.Caret.Insert
import InputMask.Proofs.Caret.Typing
import InputMask.Proofs.Caret.Deletion
import InputMask.Proofs.Field.Operation
import InputMask.Proofs.Field.Value
import InputMask.Proofs.Field.Display
import InputMask.Proofs.Field.Bounds
import InputMask.Proofs.Field.FocusChange
import InputMask.Proofs.Field.Refusal
import InputMask.Proofs.Field.LiteralKey
import InputMask.Proofs.Field.Navigation
import InputMask.Proofs.Field.Append
import InputMask.Proofs.Field.Conversion
import InputMask.Proofs.Field.Undo
import InputMask.Proofs.Field.Paste
import InputMask.Proofs.Field.CutPaste
import InputMask.Proofs.Field.HiddenEdit
import InputMask.Proofs.Mask.Reading
import InputMask.Proofs.Mask.Spelling
import InputMask.Proofs.KeyScript.RoundTrip
import InputMask.Proofs.KeyScript.Composition
import InputMask.Proofs.Cache.Freshness
import InputMask.Proofs.Preset.Merge
import InputMask.Proofs.Preset.Check
import InputMask.Proofs.Preset.Resolution
import InputMask.Proofs.Disk.Path
import InputMask.Proofs.Disk.Write
import InputMask.Proofs.CommandLine.Effect
import InputMask.Proofs.CommandLine.Pipe
