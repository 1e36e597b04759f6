import Bindery.Build.Run
import Bindery.Calendar.Read
import Bindery.CommandLine.Run
import Bindery.Config.Document
import Bindery.Config.Resolve
import Bindery.Config.Save
import Bindery.Destination
import Bindery.FileTree.Changes
import Bindery.Interface.Load
import Bindery.Kotlin.Source
import Bindery.Linking
import Bindery.Main
import Bindery.Merge.Basic
import Bindery.Merge.Combine
import Bindery.Proofs.Build.Written
import Bindery.Proofs.Kotlin.Agreement
import Bindery.Proofs.Merge.Agreement
import Bindery.Toml.Write
import Bindery.Yaml.Write
import Bindery.Proofs.Linking.Effect
import Bindery.Proofs.Build.Aborted
import Bindery.Proofs.FileTree.Making
import Bindery.Proofs.Build.Layout
import Bindery.Proofs.Build.Saving
import Bindery.Proofs.Linking.Turns
import Bindery.Proofs.Build.Tasks
import Bindery.Proofs.Build.Schedules
import Bindery.Proofs.Build.Sequential
import Bindery.Proofs.Build.SideBySide
import Bindery.Proofs.Kotlin.PackageOrder
import Bindery.Proofs.Linking.Order
import Bindery.Proofs.Build.Order
import Bindery.Proofs.Merge.Composing
import Bindery.Proofs.Kotlin.Libraries
import Bindery.Proofs.Kotlin.Loading
import Bindery.Proofs.Merge.Repeating
import Bindery.Proofs.Build.Formatting
import Bindery.Proofs.Config.Alike
import Bindery.Proofs.Config.Saving
import Bindery.Proofs.Merge.Written
import Bindery.Proofs.Linking.Names
import Bindery.Proofs.Merge.Refusing
import Bindery.Proofs.Kotlin.Headings
import Bindery.Proofs.Build.Reporting
import Bindery.Proofs.Build.Packages
import Bindery.Proofs.Linking.Growing
import Bindery.Proofs.Config.Offences
import Bindery.Proofs.Config.Recognised
import Bindery.Proofs.Build.Refusing
import Bindery.Proofs.CommandLine.Ending
import Bindery.Proofs.Kotlin.TypeTexts
import Bindery.Proofs.Kotlin.Generation
import Bindery.Proofs.Kotlin.WellFormed
import Bindery.Proofs.Kotlin.Variants
import Bindery.Proofs.Kotlin.SingleTarget
import Bindery.Proofs.Kotlin.Conversions
import Bindery.Proofs.Build.Enclosed
import Bindery.Proofs.Config.Keyed
import Bindery.Proofs.Kotlin.Reordered
import Bindery.Proofs.Config.Forcing
import Bindery.Proofs.Merge.Harvesting
import Bindery.Proofs.Merge.Frame
import Bindery.Proofs.FileTree.Refusing
import Bindery.Proofs.Build.Storing
import Bindery.Proofs.CommandLine.Untouched
import Bindery.Proofs.Config.Loading
import Bindery.Proofs.Merge.Saving
import Bindery.Proofs.Naming
import Bindery.Proofs.Destination
import Bindery.Proofs.Kotlin.Nulls
import Bindery.Proofs.Delivery
