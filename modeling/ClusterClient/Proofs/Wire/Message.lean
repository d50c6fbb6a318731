import ClusterClient.Proofs.Wire.Codec
import ClusterClient.Wire.Message

namespace ClusterClient

open Wire Codec

theorem Endpoint.codec_faithful : Endpoint.codec.Faithful :=
  (text_faithful.pair u16_faithful).imap fun _ => rfl

theorem Status.codec_faithful : Status.codec.Faithful :=
  (i32_faithful.pair (text_faithful.option.pair Endpoint.codec_faithful.option)).imap fun _ => rfl

theorem NodeLocation.codec_faithful : NodeLocation.codec.Faithful :=
  (i32_faithful.pair Endpoint.codec_faithful).imap fun _ => rfl

theorem NodeResource.codec_faithful : NodeResource.codec.Faithful :=
  (u32_faithful.pair u64_faithful).imap fun _ => rfl

theorem NodeConfiguration.codec_faithful : NodeConfiguration.codec.Faithful :=
  (NodeLocation.codec_faithful.pair NodeResource.codec_faithful).imap fun _ => rfl

theorem NodeVersion.codec_faithful : NodeVersion.codec.Faithful :=
  (text_faithful.pair text_faithful).imap fun _ => rfl

theorem Registration.codec_faithful : Registration.codec.Faithful :=
  (text_faithful.pair (NodeConfiguration.codec_faithful.pair NodeVersion.codec_faithful)).imap
    fun _ => rfl

namespace ConfigRequest

open Choice in
theorem choice_faithful : choice.Faithful :=
  (only_faithful Registration.codec_faithful).or <|
    (only_faithful Registration.codec_faithful).or <|
    (only_faithful NodeLocation.codec_faithful).or (only_faithful i32_faithful)

theorem ofSum_toSum (r : ConfigRequest) : ofSum r.toSum = r := by
  cases r <;> rfl

theorem codec_faithful : codec.Faithful :=
  (choice_faithful.codec (by decide)).imap ofSum_toSum

end ConfigRequest

namespace ConfigResponse

open Choice in
theorem choice_faithful : choice.Faithful :=
  have status := Status.codec_faithful
  have members := Endpoint.codec_faithful.list
  have configurations := i32_faithful.keyMap NodeConfiguration.codec_faithful
  (only_faithful (status.pair (members.pair i32_faithful))).or <|
    (only_faithful (status.pair members)).or <|
    (only_faithful status).or (only_faithful (status.pair configurations))

theorem ofParts_toParts (r : ConfigResponse) : ofParts r.toParts = r := by
  cases r <;> rfl

theorem codec_faithful : codec.Faithful :=
  (choice_faithful.codec (by decide)).imap ofParts_toParts

end ConfigResponse

namespace DataRequest

open Choice in
theorem choice_faithful : choice.Faithful :=
  (only_faithful (text_faithful.pair (u32_faithful.pair u64_faithful))).or
    (only_faithful (i64_faithful.pair u32_faithful))

theorem ofSum_toSum (r : DataRequest) : ofSum r.toSum = r := by
  cases r <;> rfl

theorem codec_faithful : codec.Faithful :=
  (choice_faithful.codec (by decide)).imap ofSum_toSum

end DataRequest

namespace ColumnType

theorem index_lt (t : ColumnType) : t.index < 6 := by
  cases t <;> decide

theorem ofIndex_index (t : ColumnType) : ofIndex t.index = t := by
  cases t <;> rfl

theorem codec_faithful : codec.Faithful where
  toMeasured := (variant_measured 6).imap ofIndex index
  reads {_ t} _ := (variant_reads (by decide) t.index_lt).imap t.ofIndex_index

end ColumnType

theorem RawRow.codec_faithful : RawRow.codec.Faithful :=
  (i64_faithful.pair bytes_faithful.option.list).imap fun _ => rfl

theorem FirstPage.codec_faithful : FirstPage.codec.Faithful :=
  (Status.codec_faithful.pair <| i64_faithful.pair <| text_faithful.list.pair <|
    ColumnType.codec_faithful.list.pair <| (text_faithful.keyMap u64_faithful).pair <|
    RawRow.codec_faithful.list.pair (bit_faithful ..)).imap fun _ => rfl

theorem NextPage.codec_faithful : NextPage.codec.Faithful :=
  (Status.codec_faithful.pair (RawRow.codec_faithful.list.pair (bit_faithful ..))).imap fun _ => rfl

namespace DataResponse

theorem ofSum_toSum (r : DataResponse) : ofSum r.toSum = r := by
  cases r <;> rfl

open Choice in
theorem codec_faithful : codec.Faithful :=
  (((only_faithful FirstPage.codec_faithful).or (only_faithful NextPage.codec_faithful)).codec
    (by decide)).imap ofSum_toSum

end DataResponse

-- The kinds of messages that travel in frames.
inductive MessageKind where
  | configRequest
  | configResponse
  | dataRequest
  | dataResponse
  deriving DecidableEq, Repr

namespace MessageKind

abbrev Message : MessageKind → Type
  | configRequest  => ConfigRequest
  | configResponse => ConfigResponse
  | dataRequest    => DataRequest
  | dataResponse   => DataResponse

def codec : (kind : MessageKind) → Codec kind.Message
  | configRequest  => ConfigRequest.codec
  | configResponse => ConfigResponse.codec
  | dataRequest    => DataRequest.codec
  | dataResponse   => DataResponse.codec

theorem codec_faithful : (kind : MessageKind) → kind.codec.Faithful
  | configRequest  => ConfigRequest.codec_faithful
  | configResponse => ConfigResponse.codec_faithful
  | dataRequest    => DataRequest.codec_faithful
  | dataResponse   => DataResponse.codec_faithful

end MessageKind

end ClusterClient
