import CronSchedule.Preset
import CronSchedule.Field.Grammar
import CronSchedule.Runs.Walk
import CronSchedule.Session
import CronSchedule.FailureClass
import CronSchedule.Main
import CronSchedule.Proofs.PlainWalk
import CronSchedule.Proofs.FieldReading
import CronSchedule.Proofs.ScanBudget
import CronSchedule.Proofs.ExpressionReading
import CronSchedule.Proofs.Wording
import CronSchedule.Proofs.ValidSettings
import CronSchedule.Proofs.Answers
import CronSchedule.Proofs.Composition
import CronSchedule.Proofs.SentenceTold
import CronSchedule.Proofs.DayClause
import CronSchedule.Proofs.Diagnosis
import CronSchedule.Proofs.SessionRun
import CronSchedule.Proofs.Reports
import CronSchedule.Proofs.CursorPulls
import CronSchedule.Proofs.HeldSettings
import CronSchedule.Proofs.UsualEngine
import CronSchedule.Proofs.AdjacentScans
import CronSchedule.Proofs.NamesRead
import CronSchedule.Proofs.PhraseTold
import CronSchedule.Proofs.LetterCase
import CronSchedule.Proofs.LoadedSettings
import CronSchedule.Proofs.OverriddenVariables
import CronSchedule.Proofs.FormatFields
import CronSchedule.Proofs.RootConfigured
import CronSchedule.Proofs.SentenceForm
import CronSchedule.Proofs.TableEnd
import CronSchedule.Proofs.SameWords
import CronSchedule.Proofs.KeptRecords
import CronSchedule.Proofs.EntriesTold
import CronSchedule.Proofs.MatrixRun
import CronSchedule.Proofs.Presets
