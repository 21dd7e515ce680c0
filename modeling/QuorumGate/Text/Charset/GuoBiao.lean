import QuorumGate.Text.Charset.Pairs

/-!
# The national encodings of China

The first standard has pairs of high bytes. Its extensions take lower second bytes too, and the
last one has sequences of four bytes for what is left.
-/

namespace QuorumGate.Text.GuoBiao

/-- The pairs of the first standard, GB 2312. -/
def basic : List PairRow :=
  [⟨0xA1, 0xA1, "\u3000、。・\u02c9\u02c7\u00a8〃々―～‖…‘’“”〔〕〈〉《》「」『』〖〗【】±×÷∶∧∨∑∏∪∩∈∷√⊥∥∠⌒⊙∫∮≡≌≈∽∝≠≮"⟩,
   ⟨0xA1, 0xDB, "≯≤≥∞∵∴♂♀°′″℃＄¤￠￡‰§№☆★○●◎◇◆□■△▲※→←↑↓〓"⟩,
   ⟨0xA2, 0xB1, "⒈⒉⒊⒋⒌⒍⒎⒏⒐⒑⒒⒓⒔⒕⒖⒗⒘⒙⒚⒛⑴⑵⑶⑷⑸⑹⑺⑻⑼⑽⑾⑿⒀⒁⒂⒃⒄⒅⒆⒇①②③④⑤⑥⑦⑧⑨⑩"⟩, ⟨0xA2, 0xE5, "㈠㈡㈢㈣㈤㈥㈦㈧㈨㈩"⟩,
   ⟨0xA2, 0xF1, "ⅠⅡⅢⅣⅤⅥⅦⅧⅨⅩⅪⅫ"⟩,
   ⟨0xA3, 0xA1, "！＂＃￥％＆＇（）＊＋，－．／０１２３４５６７８９：；＜＝＞？＠ＡＢＣＤＥＦＧＨＩＪＫＬＭＮＯＰＱＲＳＴＵＶＷＸＹＺ［＼］\uff3e＿\uff40ａｂｃｄ"⟩,
   ⟨0xA3, 0xE5, "ｅｆｇｈｉｊｋｌｍｎｏｐｑｒｓｔｕｖｗｘｙｚ｛｜｝\uffe3"⟩,
   ⟨0xA4, 0xA1, "ぁあぃいぅうぇえぉおかがきぎくぐけげこごさざしじすずせぜそぞただちぢっつづてでとどなにぬねのはばぱひびぴふぶぷへべぺほぼぽまみむめもゃやゅゆょよらりるれろゎ"⟩,
   ⟨0xA4, 0xEF, "わゐゑをん"⟩,
   ⟨0xA5, 0xA1, "ァアィイゥウェエォオカガキギクグケゲコゴサザシジスズセゼソゾタダチヂッツヅテデトドナニヌネノハバパヒビピフブプヘベペホボポマミムメモャヤュユョヨラリルレロヮ"⟩,
   ⟨0xA5, 0xEF, "ワヰヱヲンヴヵヶ"⟩, ⟨0xA6, 0xA1, "ΑΒΓΔΕΖΗΘΙΚΛΜΝΞΟΠΡΣΤΥΦΧΨΩ"⟩,
   ⟨0xA6, 0xC1, "αβγδεζηθικλμνξοπρστυφχψω"⟩, ⟨0xA7, 0xA1, "АБВГДЕЁЖЗИЙКЛМНОПРСТУФХЦЧШЩЪЫЬЭЮЯ"⟩,
   ⟨0xA7, 0xD1, "абвгдеёжзийклмнопрстуфхцчшщъыьэюя"⟩, ⟨0xA8, 0xA1, "āáǎàēéěèīíǐìōóǒòūúǔùǖǘǚǜüê"⟩,
   ⟨0xA8, 0xC5, "ㄅㄆㄇㄈㄉㄊㄋㄌㄍㄎㄏㄐㄑㄒㄓㄔㄕㄖㄗㄘㄙㄚㄛㄜㄝㄞㄟㄠㄡㄢㄣㄤㄥㄦㄧㄨㄩ"⟩,
   ⟨0xA9, 0xA4, "─━│┃┄┅┆┇┈┉┊┋┌┍┎┏┐┑┒┓└┕┖┗┘┙┚┛├┝┞┟┠┡┢┣┤┥┦┧┨┩┪┫┬┭┮┯┰┱┲┳┴┵┶┷┸┹┺┻┼┽┾┿╀╁╂╃╄╅╆╇╈╉╊╋"⟩,
   ⟨0xB0, 0xA1, "啊阿埃挨哎唉哀皑癌蔼矮艾碍爱隘鞍氨安俺按暗岸胺案肮昂盎凹敖熬翱袄傲奥懊澳芭捌扒叭吧笆八疤巴拔跋靶把耙坝霸罢爸白柏百摆佰败拜稗斑班搬扳般颁板版扮拌伴瓣半办绊邦"⟩,
   ⟨0xB0, 0xEF, "帮梆榜膀绑棒磅蚌镑傍谤苞胞包褒剥"⟩,
   ⟨0xB1, 0xA1, "薄雹保堡饱宝抱报暴豹鲍爆杯碑悲卑北辈背贝钡倍狈备惫焙被奔苯本笨崩绷甭泵蹦迸逼鼻比鄙笔彼碧蓖蔽毕毙毖币庇痹闭敝弊必辟壁臂避陛鞭边编贬扁便变卞辨辩辫遍标彪膘表鳖"⟩,
   ⟨0xB1, 0xEF, "憋别瘪彬斌濒滨宾摈兵冰柄丙秉饼炳"⟩,
   ⟨0xB2, 0xA1, "病并玻菠播拨钵波博勃搏铂箔伯帛舶脖膊渤泊驳捕卜哺补埠不布步簿部怖擦猜裁材才财睬踩采彩菜蔡餐参蚕残惭惨灿苍舱仓沧藏操糙槽曹草厕策侧册测层蹭插叉茬茶查碴搽察岔差"⟩,
   ⟨0xB2, 0xEF, "诧拆柴豺搀掺蝉馋谗缠铲产阐颤昌猖"⟩,
   ⟨0xB3, 0xA1, "场尝常长偿肠厂敞畅唱倡超抄钞朝嘲潮巢吵炒车扯撤掣彻澈郴臣辰尘晨忱沉陈趁衬撑称城橙成呈乘程惩澄诚承逞骋秤吃痴持匙池迟弛驰耻齿侈尺赤翅斥炽充冲虫崇宠抽酬畴踌稠愁"⟩,
   ⟨0xB3, 0xEF, "筹仇绸瞅丑臭初出橱厨躇锄雏滁除楚"⟩,
   ⟨0xB4, 0xA1, "础储矗搐触处揣川穿椽传船喘串疮窗幢床闯创吹炊捶锤垂春椿醇唇淳纯蠢戳绰疵茨磁雌辞慈瓷词此刺赐次聪葱囱匆从丛凑粗醋簇促蹿篡窜摧崔催脆瘁粹淬翠村存寸磋撮搓措挫错搭"⟩,
   ⟨0xB4, 0xEF, "达答瘩打大呆歹傣戴带殆代贷袋待逮"⟩,
   ⟨0xB5, 0xA1, "怠耽担丹单郸掸胆旦氮但惮淡诞弹蛋当挡党荡档刀捣蹈倒岛祷导到稻悼道盗德得的蹬灯登等瞪凳邓堤低滴迪敌笛狄涤翟嫡抵底地蒂第帝弟递缔颠掂滇碘点典靛垫电佃甸店惦奠淀殿"⟩,
   ⟨0xB5, 0xEF, "碉叼雕凋刁掉吊钓调跌爹碟蝶迭谍叠"⟩,
   ⟨0xB6, 0xA1, "丁盯叮钉顶鼎锭定订丢东冬董懂动栋侗恫冻洞兜抖斗陡豆逗痘都督毒犊独读堵睹赌杜镀肚度渡妒端短锻段断缎堆兑队对墩吨蹲敦顿囤钝盾遁掇哆多夺垛躲朵跺舵剁惰堕蛾峨鹅俄额"⟩,
   ⟨0xB6, 0xEF, "讹娥恶厄扼遏鄂饿恩而儿耳尔饵洱二"⟩,
   ⟨0xB7, 0xA1, "贰发罚筏伐乏阀法珐藩帆番翻樊矾钒繁凡烦反返范贩犯饭泛坊芳方肪房防妨仿访纺放菲非啡飞肥匪诽吠肺废沸费芬酚吩氛分纷坟焚汾粉奋份忿愤粪丰封枫蜂峰锋风疯烽逢冯缝讽奉"⟩,
   ⟨0xB7, 0xEF, "凤佛否夫敷肤孵扶拂辐幅氟符伏俘服"⟩,
   ⟨0xB8, 0xA1, "浮涪福袱弗甫抚辅俯釜斧脯腑府腐赴副覆赋复傅付阜父腹负富讣附妇缚咐噶嘎该改概钙盖溉干甘杆柑竿肝赶感秆敢赣冈刚钢缸肛纲岗港杠篙皋高膏羔糕搞镐稿告哥歌搁戈鸽胳疙割"⟩,
   ⟨0xB8, 0xEF, "革葛格蛤阁隔铬个各给根跟耕更庚羹"⟩,
   ⟨0xB9, 0xA1, "埂耿梗工攻功恭龚供躬公宫弓巩汞拱贡共钩勾沟苟狗垢构购够辜菇咕箍估沽孤姑鼓古蛊骨谷股故顾固雇刮瓜剐寡挂褂乖拐怪棺关官冠观管馆罐惯灌贯光广逛瑰规圭硅归龟闺轨鬼诡"⟩,
   ⟨0xB9, 0xEF, "癸桂柜跪贵刽辊滚棍锅郭国果裹过哈"⟩,
   ⟨0xBA, 0xA1, "骸孩海氦亥害骇酣憨邯韩含涵寒函喊罕翰撼捍旱憾悍焊汗汉夯杭航壕嚎豪毫郝好耗号浩呵喝荷菏核禾和何合盒貉阂河涸赫褐鹤贺嘿黑痕很狠恨哼亨横衡恒轰哄烘虹鸿洪宏弘红喉侯"⟩,
   ⟨0xBA, 0xEF, "猴吼厚候后呼乎忽瑚壶葫胡蝴狐糊湖"⟩,
   ⟨0xBB, 0xA1, "弧虎唬护互沪户花哗华猾滑画划化话槐徊怀淮坏欢环桓还缓换患唤痪豢焕涣宦幻荒慌黄磺蝗簧皇凰惶煌晃幌恍谎灰挥辉徽恢蛔回毁悔慧卉惠晦贿秽会烩汇讳诲绘荤昏婚魂浑混豁活"⟩,
   ⟨0xBB, 0xEF, "伙火获或惑霍货祸击圾基机畸稽积箕"⟩,
   ⟨0xBC, 0xA1, "肌饥迹激讥鸡姬绩缉吉极棘辑籍集及急疾汲即嫉级挤几脊己蓟技冀季伎祭剂悸济寄寂计记既忌际妓继纪嘉枷夹佳家加荚颊贾甲钾假稼价架驾嫁歼监坚尖笺间煎兼肩艰奸缄茧检柬碱"⟩,
   ⟨0xBC, 0xEF, "硷拣捡简俭剪减荐槛鉴践贱见键箭件"⟩,
   ⟨0xBD, 0xA1, "健舰剑饯渐溅涧建僵姜将浆江疆蒋桨奖讲匠酱降蕉椒礁焦胶交郊浇骄娇嚼搅铰矫侥脚狡角饺缴绞剿教酵轿较叫窖揭接皆秸街阶截劫节桔杰捷睫竭洁结解姐戒藉芥界借介疥诫届巾筋"⟩,
   ⟨0xBD, 0xEF, "斤金今津襟紧锦仅谨进靳晋禁近烬浸"⟩,
   ⟨0xBE, 0xA1, "尽劲荆兢茎睛晶鲸京惊精粳经井警景颈静境敬镜径痉靖竟竞净炯窘揪究纠玖韭久灸九酒厩救旧臼舅咎就疚鞠拘狙疽居驹菊局咀矩举沮聚拒据巨具距踞锯俱句惧炬剧捐鹃娟倦眷卷绢"⟩,
   ⟨0xBE, 0xEF, "撅攫抉掘倔爵觉决诀绝均菌钧军君峻"⟩,
   ⟨0xBF, 0xA1, "俊竣浚郡骏喀咖卡咯开揩楷凯慨刊堪勘坎砍看康慷糠扛抗亢炕考拷烤靠坷苛柯棵磕颗科壳咳可渴克刻客课肯啃垦恳坑吭空恐孔控抠口扣寇枯哭窟苦酷库裤夸垮挎跨胯块筷侩快宽款"⟩,
   ⟨0xBF, 0xEF, "匡筐狂框矿眶旷况亏盔岿窥葵奎魁傀"⟩,
   ⟨0xC0, 0xA1, "馈愧溃坤昆捆困括扩廓阔垃拉喇蜡腊辣啦莱来赖蓝婪栏拦篮阑兰澜谰揽览懒缆烂滥琅榔狼廊郎朗浪捞劳牢老佬姥酪烙涝勒乐雷镭蕾磊累儡垒擂肋类泪棱楞冷厘梨犁黎篱狸离漓理李"⟩,
   ⟨0xC0, 0xEF, "里鲤礼莉荔吏栗丽厉励砾历利傈例俐"⟩,
   ⟨0xC1, 0xA1, "痢立粒沥隶力璃哩俩联莲连镰廉怜涟帘敛脸链恋炼练粮凉梁粱良两辆量晾亮谅撩聊僚疗燎寥辽潦了撂镣廖料列裂烈劣猎琳林磷霖临邻鳞淋凛赁吝拎玲菱零龄铃伶羚凌灵陵岭领另令"⟩,
   ⟨0xC1, 0xEF, "溜琉榴硫馏留刘瘤流柳六龙聋咙笼窿"⟩,
   ⟨0xC2, 0xA1, "隆垄拢陇楼娄搂篓漏陋芦卢颅庐炉掳卤虏鲁麓碌露路赂鹿潞禄录陆戮驴吕铝侣旅履屡缕虑氯律率滤绿峦挛孪滦卵乱掠略抡轮伦仑沦纶论萝螺罗逻锣箩骡裸落洛骆络妈麻玛码蚂马骂"⟩,
   ⟨0xC2, 0xEF, "嘛吗埋买麦卖迈脉瞒馒蛮满蔓曼慢漫"⟩,
   ⟨0xC3, 0xA1, "谩芒茫盲氓忙莽猫茅锚毛矛铆卯茂冒帽貌贸么玫枚梅酶霉煤没眉媒镁每美昧寐妹媚门闷们萌蒙檬盟锰猛梦孟眯醚靡糜迷谜弥米秘觅泌蜜密幂棉眠绵冕免勉娩缅面苗描瞄藐秒渺庙妙"⟩,
   ⟨0xC3, 0xEF, "蔑灭民抿皿敏悯闽明螟鸣铭名命谬摸"⟩,
   ⟨0xC4, 0xA1, "摹蘑模膜磨摩魔抹末莫墨默沫漠寞陌谋牟某拇牡亩姆母墓暮幕募慕木目睦牧穆拿哪呐钠那娜纳氖乃奶耐奈南男难囊挠脑恼闹淖呢馁内嫩能妮霓倪泥尼拟你匿腻逆溺蔫拈年碾撵捻念"⟩,
   ⟨0xC4, 0xEF, "娘酿鸟尿捏聂孽啮镊镍涅您柠狞凝宁"⟩,
   ⟨0xC5, 0xA1, "拧泞牛扭钮纽脓浓农弄奴努怒女暖虐疟挪懦糯诺哦欧鸥殴藕呕偶沤啪趴爬帕怕琶拍排牌徘湃派攀潘盘磐盼畔判叛乓庞旁耪胖抛咆刨炮袍跑泡呸胚培裴赔陪配佩沛喷盆砰抨烹澎彭蓬"⟩,
   ⟨0xC5, 0xEF, "棚硼篷膨朋鹏捧碰坯砒霹批披劈琵毗"⟩,
   ⟨0xC6, 0xA1, "啤脾疲皮匹痞僻屁譬篇偏片骗飘漂瓢票撇瞥拼频贫品聘乒坪苹萍平凭瓶评屏坡泼颇婆破魄迫粕剖扑铺仆莆葡菩蒲埔朴圃普浦谱曝瀑期欺栖戚妻七凄漆柒沏其棋奇歧畦崎脐齐旗祈祁"⟩,
   ⟨0xC6, 0xEF, "骑起岂乞企启契砌器气迄弃汽泣讫掐"⟩,
   ⟨0xC7, 0xA1, "恰洽牵扦钎铅千迁签仟谦乾黔钱钳前潜遣浅谴堑嵌欠歉枪呛腔羌墙蔷强抢橇锹敲悄桥瞧乔侨巧鞘撬翘峭俏窍切茄且怯窃钦侵亲秦琴勤芹擒禽寝沁青轻氢倾卿清擎晴氰情顷请庆琼穷"⟩,
   ⟨0xC7, 0xEF, "秋丘邱球求囚酋泅趋区蛆曲躯屈驱渠"⟩,
   ⟨0xC8, 0xA1, "取娶龋趣去圈颧权醛泉全痊拳犬券劝缺炔瘸却鹊榷确雀裙群然燃冉染瓤壤攘嚷让饶扰绕惹热壬仁人忍韧任认刃妊纫扔仍日戎茸蓉荣融熔溶容绒冗揉柔肉茹蠕儒孺如辱乳汝入褥软阮"⟩,
   ⟨0xC8, 0xEF, "蕊瑞锐闰润若弱撒洒萨腮鳃塞赛三叁"⟩,
   ⟨0xC9, 0xA1, "伞散桑嗓丧搔骚扫嫂瑟色涩森僧莎砂杀刹沙纱傻啥煞筛晒珊苫杉山删煽衫闪陕擅赡膳善汕扇缮墒伤商赏晌上尚裳梢捎稍烧芍勺韶少哨邵绍奢赊蛇舌舍赦摄射慑涉社设砷申呻伸身深"⟩,
   ⟨0xC9, 0xEF, "娠绅神沈审婶甚肾慎渗声生甥牲升绳"⟩,
   ⟨0xCA, 0xA1, "省盛剩胜圣师失狮施湿诗尸虱十石拾时什食蚀实识史矢使屎驶始式示士世柿事拭誓逝势是嗜噬适仕侍释饰氏市恃室视试收手首守寿授售受瘦兽蔬枢梳殊抒输叔舒淑疏书赎孰熟薯暑"⟩,
   ⟨0xCA, 0xEF, "曙署蜀黍鼠属术述树束戍竖墅庶数漱"⟩,
   ⟨0xCB, 0xA1, "恕刷耍摔衰甩帅栓拴霜双爽谁水睡税吮瞬顺舜说硕朔烁斯撕嘶思私司丝死肆寺嗣四伺似饲巳松耸怂颂送宋讼诵搜艘擞嗽苏酥俗素速粟僳塑溯宿诉肃酸蒜算虽隋随绥髓碎岁穗遂隧祟"⟩,
   ⟨0xCB, 0xEF, "孙损笋蓑梭唆缩琐索锁所塌他它她塔"⟩,
   ⟨0xCC, 0xA1, "獭挞蹋踏胎苔抬台泰酞太态汰坍摊贪瘫滩坛檀痰潭谭谈坦毯袒碳探叹炭汤塘搪堂棠膛唐糖倘躺淌趟烫掏涛滔绦萄桃逃淘陶讨套特藤腾疼誊梯剔踢锑提题蹄啼体替嚏惕涕剃屉天添填"⟩,
   ⟨0xCC, 0xEF, "田甜恬舔腆挑条迢眺跳贴铁帖厅听烃"⟩,
   ⟨0xCD, 0xA1, "汀廷停亭庭挺艇通桐酮瞳同铜彤童桶捅筒统痛偷投头透凸秃突图徒途涂屠土吐兔湍团推颓腿蜕褪退吞屯臀拖托脱鸵陀驮驼椭妥拓唾挖哇蛙洼娃瓦袜歪外豌弯湾玩顽丸烷完碗挽晚皖"⟩,
   ⟨0xCD, 0xEF, "惋宛婉万腕汪王亡枉网往旺望忘妄威"⟩,
   ⟨0xCE, 0xA1, "巍微危韦违桅围唯惟为潍维苇萎委伟伪尾纬未蔚味畏胃喂魏位渭谓尉慰卫瘟温蚊文闻纹吻稳紊问嗡翁瓮挝蜗涡窝我斡卧握沃巫呜钨乌污诬屋无芜梧吾吴毋武五捂午舞伍侮坞戊雾晤"⟩,
   ⟨0xCE, 0xEF, "物勿务悟误昔熙析西硒矽晰嘻吸锡牺"⟩,
   ⟨0xCF, 0xA1, "稀息希悉膝夕惜熄烯溪汐犀檄袭席习媳喜铣洗系隙戏细瞎虾匣霞辖暇峡侠狭下厦夏吓掀锨先仙鲜纤咸贤衔舷闲涎弦嫌显险现献县腺馅羡宪陷限线相厢镶香箱襄湘乡翔祥详想响享项"⟩,
   ⟨0xCF, 0xEF, "巷橡像向象萧硝霄削哮嚣销消宵淆晓"⟩,
   ⟨0xD0, 0xA1, "小孝校肖啸笑效楔些歇蝎鞋协挟携邪斜胁谐写械卸蟹懈泄泻谢屑薪芯锌欣辛新忻心信衅星腥猩惺兴刑型形邢行醒幸杏性姓兄凶胸匈汹雄熊休修羞朽嗅锈秀袖绣墟戌需虚嘘须徐许蓄"⟩,
   ⟨0xD0, 0xEF, "酗叙旭序畜恤絮婿绪续轩喧宣悬旋玄"⟩,
   ⟨0xD1, 0xA1, "选癣眩绚靴薛学穴雪血勋熏循旬询寻驯巡殉汛训讯逊迅压押鸦鸭呀丫芽牙蚜崖衙涯雅哑亚讶焉咽阉烟淹盐严研蜒岩延言颜阎炎沿奄掩眼衍演艳堰燕厌砚雁唁彦焰宴谚验殃央鸯秧杨"⟩,
   ⟨0xD1, 0xEF, "扬佯疡羊洋阳氧仰痒养样漾邀腰妖瑶"⟩,
   ⟨0xD2, 0xA1, "摇尧遥窑谣姚咬舀药要耀椰噎耶爷野冶也页掖业叶曳腋夜液一壹医揖铱依伊衣颐夷遗移仪胰疑沂宜姨彝椅蚁倚已乙矣以艺抑易邑屹亿役臆逸肄疫亦裔意毅忆义益溢诣议谊译异翼翌"⟩,
   ⟨0xD2, 0xEF, "绎茵荫因殷音阴姻吟银淫寅饮尹引隐"⟩,
   ⟨0xD3, 0xA1, "印英樱婴鹰应缨莹萤营荧蝇迎赢盈影颖硬映哟拥佣臃痈庸雍踊蛹咏泳涌永恿勇用幽优悠忧尤由邮铀犹油游酉有友右佑釉诱又幼迂淤于盂榆虞愚舆余俞逾鱼愉渝渔隅予娱雨与屿禹宇"⟩,
   ⟨0xD3, 0xEF, "语羽玉域芋郁吁遇喻峪御愈欲狱育誉"⟩,
   ⟨0xD4, 0xA1, "浴寓裕预豫驭鸳渊冤元垣袁原援辕园员圆猿源缘远苑愿怨院曰约越跃钥岳粤月悦阅耘云郧匀陨允运蕴酝晕韵孕匝砸杂栽哉灾宰载再在咱攒暂赞赃脏葬遭糟凿藻枣早澡蚤躁噪造皂灶"⟩,
   ⟨0xD4, 0xEF, "燥责择则泽贼怎增憎曾赠扎喳渣札轧"⟩,
   ⟨0xD5, 0xA1, "铡闸眨栅榨咋乍炸诈摘斋宅窄债寨瞻毡詹粘沾盏斩辗崭展蘸栈占战站湛绽樟章彰漳张掌涨杖丈帐账仗胀瘴障招昭找沼赵照罩兆肇召遮折哲蛰辙者锗蔗这浙珍斟真甄砧臻贞针侦枕疹"⟩,
   ⟨0xD5, 0xEF, "诊震振镇阵蒸挣睁征狰争怔整拯正政"⟩,
   ⟨0xD6, 0xA1, "帧症郑证芝枝支吱蜘知肢脂汁之织职直植殖执值侄址指止趾只旨纸志挚掷至致置帜峙制智秩稚质炙痔滞治窒中盅忠钟衷终种肿重仲众舟周州洲诌粥轴肘帚咒皱宙昼骤珠株蛛朱猪诸"⟩,
   ⟨0xD6, 0xEF, "诛逐竹烛煮拄瞩嘱主著柱助蛀贮铸筑"⟩,
   ⟨0xD7, 0xA1, "住注祝驻抓爪拽专砖转撰赚篆桩庄装妆撞壮状椎锥追赘坠缀谆准捉拙卓桌琢茁酌啄着灼浊兹咨资姿滋淄孜紫仔籽滓子自渍字鬃棕踪宗综总纵邹走奏揍租足卒族祖诅阻组钻纂嘴醉最"⟩,
   ⟨0xD7, 0xEF, "罪尊遵昨左佐柞做作坐座"⟩,
   ⟨0xD8, 0xA1, "亍丌兀丐廿卅丕亘丞鬲孬噩丨禺丿匕乇夭爻卮氐囟胤馗毓睾鼗丶亟鼐乜乩亓芈孛啬嘏仄厍厝厣厥厮靥赝匚叵匦匮匾赜卦卣刂刈刎刭刳刿剀剌剞剡剜蒯剽劂劁劐劓冂罔亻仃仉仂仨仡"⟩,
   ⟨0xD8, 0xEF, "仫仞伛仳伢佤仵伥伧伉伫佞佧攸佚佝"⟩,
   ⟨0xD9, 0xA1, "佟佗伲伽佶佴侑侉侃侏佾佻侪佼侬侔俦俨俪俅俚俣俜俑俟俸倩偌俳倬倏倮倭俾倜倌倥倨偾偃偕偈偎偬偻傥傧傩傺僖儆僭僬僦僮儇儋仝氽佘佥俎龠汆籴兮巽黉馘冁夔勹匍訇匐凫夙兕"⟩,
   ⟨0xD9, 0xEF, "亠兖亳衮袤亵脔裒禀嬴蠃羸冫冱冽冼"⟩,
   ⟨0xDA, 0xA1, "凇冖冢冥讠讦讧讪讴讵讷诂诃诋诏诎诒诓诔诖诘诙诜诟诠诤诨诩诮诰诳诶诹诼诿谀谂谄谇谌谏谑谒谔谕谖谙谛谘谝谟谠谡谥谧谪谫谮谯谲谳谵谶卩卺阝阢阡阱阪阽阼陂陉陔陟陧陬"⟩,
   ⟨0xDA, 0xEF, "陲陴隈隍隗隰邗邛邝邙邬邡邴邳邶邺"⟩,
   ⟨0xDB, 0xA1, "邸邰郏郅邾郐郄郇郓郦郢郜郗郛郫郯郾鄄鄢鄞鄣鄱鄯鄹酃酆刍奂劢劬劭劾哿勐勖勰叟燮矍廴凵凼鬯厶弁畚巯坌垩垡塾墼壅壑圩圬圪圳圹圮圯坜圻坂坩垅坫垆坼坻坨坭坶坳垭垤垌垲"⟩,
   ⟨0xDB, 0xEF, "埏垧垴垓垠埕埘埚埙埒垸埴埯埸埤埝"⟩,
   ⟨0xDC, 0xA1, "堋堍埽埭堀堞堙塄堠塥塬墁墉墚墀馨鼙懿艹艽艿芏芊芨芄芎芑芗芙芫芸芾芰苈苊苣芘芷芮苋苌苁芩芴芡芪芟苄苎芤苡茉苷苤茏茇苜苴苒苘茌苻苓茑茚茆茔茕苠苕茜荑荛荜茈莒茼茴"⟩,
   ⟨0xDC, 0xEF, "茱莛荞茯荏荇荃荟荀茗荠茭茺茳荦荥"⟩,
   ⟨0xDD, 0xA1, "荨茛荩荬荪荭荮莰荸莳莴莠莪莓莜莅荼莶莩荽莸荻莘莞莨莺莼菁萁菥菘堇萘萋菝菽菖萜萸萑萆菔菟萏萃菸菹菪菅菀萦菰菡葜葑葚葙葳蒇蒈葺蒉葸萼葆葩葶蒌蒎萱葭蓁蓍蓐蓦蒽蓓蓊"⟩,
   ⟨0xDD, 0xEF, "蒿蒺蓠蒡蒹蒴蒗蓥蓣蔌甍蔸蓰蔹蔟蔺"⟩,
   ⟨0xDE, 0xA1, "蕖蔻蓿蓼蕙蕈蕨蕤蕞蕺瞢蕃蕲蕻薤薨薇薏蕹薮薜薅薹薷薰藓藁藜藿蘧蘅蘩蘖蘼廾弈夼奁耷奕奚奘匏尢尥尬尴扌扪抟抻拊拚拗拮挢拶挹捋捃掭揶捱捺掎掴捭掬掊捩掮掼揲揸揠揿揄揞"⟩,
   ⟨0xDE, 0xEF, "揎摒揆掾摅摁搋搛搠搌搦搡摞撄摭撖"⟩,
   ⟨0xDF, 0xA1, "摺撷撸撙撺擀擐擗擤擢攉攥攮弋忒甙弑卟叱叽叩叨叻吒吖吆呋呒呓呔呖呃吡呗呙吣吲咂咔呷呱呤咚咛咄呶呦咝哐咭哂咴哒咧咦哓哔呲咣哕咻咿哌哙哚哜咩咪咤哝哏哞唛哧唠哽唔哳"⟩,
   ⟨0xDF, 0xEF, "唢唣唏唑唧唪啧喏喵啉啭啁啕唿啐唼"⟩,
   ⟨0xE0, 0xA1, "唷啖啵啶啷唳唰啜喋嗒喃喱喹喈喁喟啾嗖喑啻嗟喽喾喔喙嗪嗷嗉嘟嗑嗫嗬嗔嗦嗝嗄嗯嗥嗲嗳嗌嗍嗨嗵嗤辔嘞嘈嘌嘁嘤嘣嗾嘀嘧嘭噘嘹噗嘬噍噢噙噜噌噔嚆噤噱噫噻噼嚅嚓嚯囔囗囝"⟩,
   ⟨0xE0, 0xEF, "囡囵囫囹囿圄圊圉圜帏帙帔帑帱帻帼"⟩,
   ⟨0xE1, 0xA1, "帷幄幔幛幞幡岌屺岍岐岖岈岘岙岑岚岜岵岢岽岬岫岱岣峁岷峄峒峤峋峥崂崃崧崦崮崤崞崆崛嵘崾崴崽嵬嵛嵯嵝嵫嵋嵊嵩嵴嶂嶙嶝豳嶷巅彳彷徂徇徉後徕徙徜徨徭徵徼衢彡犭犰犴犷"⟩,
   ⟨0xE1, 0xEF, "犸狃狁狎狍狒狨狯狩狲狴狷猁狳猃狺"⟩,
   ⟨0xE2, 0xA1, "狻猗猓猡猊猞猝猕猢猹猥猬猸猱獐獍獗獠獬獯獾舛夥飧夤夂饣饧饨饩饪饫饬饴饷饽馀馄馇馊馍馐馑馓馔馕庀庑庋庖庥庠庹庵庾庳赓廒廑廛廨廪膺忄忉忖忏怃忮怄忡忤忾怅怆忪忭忸"⟩,
   ⟨0xE2, 0xEF, "怙怵怦怛怏怍怩怫怊怿怡恸恹恻恺恂"⟩,
   ⟨0xE3, 0xA1, "恪恽悖悚悭悝悃悒悌悛惬悻悱惝惘惆惚悴愠愦愕愣惴愀愎愫慊慵憬憔憧憷懔懵忝隳闩闫闱闳闵闶闼闾阃阄阆阈阊阋阌阍阏阒阕阖阗阙阚丬爿戕氵汔汜汊沣沅沐沔沌汨汩汴汶沆沩泐"⟩,
   ⟨0xE3, 0xEF, "泔沭泷泸泱泗沲泠泖泺泫泮沱泓泯泾"⟩,
   ⟨0xE4, 0xA1, "洹洧洌浃浈洇洄洙洎洫浍洮洵洚浏浒浔洳涑浯涞涠浞涓涔浜浠浼浣渚淇淅淞渎涿淠渑淦淝淙渖涫渌涮渫湮湎湫溲湟溆湓湔渲渥湄滟溱溘滠漭滢溥溧溽溻溷滗溴滏溏滂溟潢潆潇漤漕"⟩,
   ⟨0xE4, 0xEF, "滹漯漶潋潴漪漉漩澉澍澌潸潲潼潺濑"⟩,
   ⟨0xE5, 0xA1, "濉澧澹澶濂濡濮濞濠濯瀚瀣瀛瀹瀵灏灞宀宄宕宓宥宸甯骞搴寤寮褰寰蹇謇辶迓迕迥迮迤迩迦迳迨逅逄逋逦逑逍逖逡逵逶逭逯遄遑遒遐遨遘遢遛暹遴遽邂邈邃邋彐彗彖彘尻咫屐屙孱"⟩,
   ⟨0xE5, 0xEF, "屣屦羼弪弩弭艴弼鬻屮妁妃妍妩妪妣"⟩,
   ⟨0xE6, 0xA1, "妗姊妫妞妤姒妲妯姗妾娅娆姝娈姣姘姹娌娉娲娴娑娣娓婀婧婊婕娼婢婵胬媪媛婷婺媾嫫媲嫒嫔媸嫠嫣嫱嫖嫦嫘嫜嬉嬗嬖嬲嬷孀尕尜孚孥孳孑孓孢驵驷驸驺驿驽骀骁骅骈骊骐骒骓骖"⟩,
   ⟨0xE6, 0xEF, "骘骛骜骝骟骠骢骣骥骧纟纡纣纥纨纩"⟩,
   ⟨0xE7, 0xA1, "纭纰纾绀绁绂绉绋绌绐绔绗绛绠绡绨绫绮绯绱绲缍绶绺绻绾缁缂缃缇缈缋缌缏缑缒缗缙缜缛缟缡缢缣缤缥缦缧缪缫缬缭缯缰缱缲缳缵幺畿巛甾邕玎玑玮玢玟珏珂珑玷玳珀珉珈珥珙"⟩,
   ⟨0xE7, 0xEF, "顼琊珩珧珞玺珲琏琪瑛琦琥琨琰琮琬"⟩,
   ⟨0xE8, 0xA1, "琛琚瑁瑜瑗瑕瑙瑷瑭瑾璜璎璀璁璇璋璞璨璩璐璧瓒璺韪韫韬杌杓杞杈杩枥枇杪杳枘枧杵枨枞枭枋杷杼柰栉柘栊柩枰栌柙枵柚枳柝栀柃枸柢栎柁柽栲栳桠桡桎桢桄桤梃栝桕桦桁桧桀"⟩,
   ⟨0xE8, 0xEF, "栾桊桉栩梵梏桴桷梓桫棂楮棼椟椠棹"⟩,
   ⟨0xE9, 0xA1, "椤棰椋椁楗棣椐楱椹楠楂楝榄楫榀榘楸椴槌榇榈槎榉楦楣楹榛榧榻榫榭槔榱槁槊槟榕槠榍槿樯槭樗樘橥槲橄樾檠橐橛樵檎橹樽樨橘橼檑檐檩檗檫猷獒殁殂殇殄殒殓殍殚殛殡殪轫轭"⟩,
   ⟨0xE9, 0xEF, "轱轲轳轵轶轸轷轹轺轼轾辁辂辄辇辋"⟩,
   ⟨0xEA, 0xA1, "辍辎辏辘辚軎戋戗戛戟戢戡戥戤戬臧瓯瓴瓿甏甑甓攴旮旯旰昊昙杲昃昕昀炅曷昝昴昱昶昵耆晟晔晁晏晖晡晗晷暄暌暧暝暾曛曜曦曩贲贳贶贻贽赀赅赆赈赉赇赍赕赙觇觊觋觌觎觏觐"⟩,
   ⟨0xEA, 0xEF, "觑牮犟牝牦牯牾牿犄犋犍犏犒挈挲掰"⟩,
   ⟨0xEB, 0xA1, "搿擘耄毪毳毽毵毹氅氇氆氍氕氘氙氚氡氩氤氪氲攵敕敫牍牒牖爰虢刖肟肜肓肼朊肽肱肫肭肴肷胧胨胩胪胛胂胄胙胍胗朐胝胫胱胴胭脍脎胲胼朕脒豚脶脞脬脘脲腈腌腓腴腙腚腱腠腩"⟩,
   ⟨0xEB, 0xEF, "腼腽腭腧塍媵膈膂膑滕膣膪臌朦臊膻"⟩,
   ⟨0xEC, 0xA1, "臁膦欤欷欹歃歆歙飑飒飓飕飙飚殳彀毂觳斐齑斓於旆旄旃旌旎旒旖炀炜炖炝炻烀炷炫炱烨烊焐焓焖焯焱煳煜煨煅煲煊煸煺熘熳熵熨熠燠燔燧燹爝爨灬焘煦熹戾戽扃扈扉礻祀祆祉祛"⟩,
   ⟨0xEC, 0xEF, "祜祓祚祢祗祠祯祧祺禅禊禚禧禳忑忐"⟩,
   ⟨0xED, 0xA1, "怼恝恚恧恁恙恣悫愆愍慝憩憝懋懑戆肀聿沓泶淼矶矸砀砉砗砘砑斫砭砜砝砹砺砻砟砼砥砬砣砩硎硭硖硗砦硐硇硌硪碛碓碚碇碜碡碣碲碹碥磔磙磉磬磲礅磴礓礤礞礴龛黹黻黼盱眄眍"⟩,
   ⟨0xED, 0xEF, "盹眇眈眚眢眙眭眦眵眸睐睑睇睃睚睨"⟩,
   ⟨0xEE, 0xA1, "睢睥睿瞍睽瞀瞌瞑瞟瞠瞰瞵瞽町畀畎畋畈畛畲畹疃罘罡罟詈罨罴罱罹羁罾盍盥蠲钅钆钇钋钊钌钍钏钐钔钗钕钚钛钜钣钤钫钪钭钬钯钰钲钴钶钷钸钹钺钼钽钿铄铈铉铊铋铌铍铎铐铑"⟩,
   ⟨0xEE, 0xEF, "铒铕铖铗铙铘铛铞铟铠铢铤铥铧铨铪"⟩,
   ⟨0xEF, 0xA1, "铩铫铮铯铳铴铵铷铹铼铽铿锃锂锆锇锉锊锍锎锏锒锓锔锕锖锘锛锝锞锟锢锪锫锩锬锱锲锴锶锷锸锼锾锿镂锵镄镅镆镉镌镎镏镒镓镔镖镗镘镙镛镞镟镝镡镢镤镥镦镧镨镩镪镫镬镯镱"⟩,
   ⟨0xEF, 0xEF, "镲镳锺矧矬雉秕秭秣秫稆嵇稃稂稞稔"⟩,
   ⟨0xF0, 0xA1, "稹稷穑黏馥穰皈皎皓皙皤瓞瓠甬鸠鸢鸨鸩鸪鸫鸬鸲鸱鸶鸸鸷鸹鸺鸾鹁鹂鹄鹆鹇鹈鹉鹋鹌鹎鹑鹕鹗鹚鹛鹜鹞鹣鹦鹧鹨鹩鹪鹫鹬鹱鹭鹳疒疔疖疠疝疬疣疳疴疸痄疱疰痃痂痖痍痣痨痦痤"⟩,
   ⟨0xF0, 0xEF, "痫痧瘃痱痼痿瘐瘀瘅瘌瘗瘊瘥瘘瘕瘙"⟩,
   ⟨0xF1, 0xA1, "瘛瘼瘢瘠癀瘭瘰瘿瘵癃瘾瘳癍癞癔癜癖癫癯翊竦穸穹窀窆窈窕窦窠窬窨窭窳衤衩衲衽衿袂袢裆袷袼裉裢裎裣裥裱褚裼裨裾裰褡褙褓褛褊褴褫褶襁襦襻疋胥皲皴矜耒耔耖耜耠耢耥耦"⟩,
   ⟨0xF1, 0xEF, "耧耩耨耱耋耵聃聆聍聒聩聱覃顸颀颃"⟩,
   ⟨0xF2, 0xA1, "颉颌颍颏颔颚颛颞颟颡颢颥颦虍虔虬虮虿虺虼虻蚨蚍蚋蚬蚝蚧蚣蚪蚓蚩蚶蛄蚵蛎蚰蚺蚱蚯蛉蛏蚴蛩蛱蛲蛭蛳蛐蜓蛞蛴蛟蛘蛑蜃蜇蛸蜈蜊蜍蜉蜣蜻蜞蜥蜮蜚蜾蝈蜴蜱蜩蜷蜿螂蜢蝽蝾"⟩,
   ⟨0xF2, 0xEF, "蝻蝠蝰蝌蝮螋蝓蝣蝼蝤蝙蝥螓螯螨蟒"⟩,
   ⟨0xF3, 0xA1, "蟆螈螅螭螗螃螫蟥螬螵螳蟋蟓螽蟑蟀蟊蟛蟪蟠蟮蠖蠓蟾蠊蠛蠡蠹蠼缶罂罄罅舐竺竽笈笃笄笕笊笫笏筇笸笪笙笮笱笠笥笤笳笾笞筘筚筅筵筌筝筠筮筻筢筲筱箐箦箧箸箬箝箨箅箪箜箢"⟩,
   ⟨0xF3, 0xEF, "箫箴篑篁篌篝篚篥篦篪簌篾篼簏簖簋"⟩,
   ⟨0xF4, 0xA1, "簟簪簦簸籁籀臾舁舂舄臬衄舡舢舣舭舯舨舫舸舻舳舴舾艄艉艋艏艚艟艨衾袅袈裘裟襞羝羟羧羯羰羲籼敉粑粝粜粞粢粲粼粽糁糇糌糍糈糅糗糨艮暨羿翎翕翥翡翦翩翮翳糸絷綦綮繇纛"⟩,
   ⟨0xF4, 0xEF, "麸麴赳趄趔趑趱赧赭豇豉酊酐酎酏酤"⟩,
   ⟨0xF5, 0xA1, "酢酡酰酩酯酽酾酲酴酹醌醅醐醍醑醢醣醪醭醮醯醵醴醺豕鹾趸跫踅蹙蹩趵趿趼趺跄跖跗跚跞跎跏跛跆跬跷跸跣跹跻跤踉跽踔踝踟踬踮踣踯踺蹀踹踵踽踱蹉蹁蹂蹑蹒蹊蹰蹶蹼蹯蹴躅"⟩,
   ⟨0xF5, 0xEF, "躏躔躐躜躞豸貂貊貅貘貔斛觖觞觚觜"⟩,
   ⟨0xF6, 0xA1, "觥觫觯訾謦靓雩雳雯霆霁霈霏霎霪霭霰霾龀龃龅龆龇龈龉龊龌黾鼋鼍隹隼隽雎雒瞿雠銎銮鋈錾鍪鏊鎏鐾鑫鱿鲂鲅鲆鲇鲈稣鲋鲎鲐鲑鲒鲔鲕鲚鲛鲞鲟鲠鲡鲢鲣鲥鲦鲧鲨鲩鲫鲭鲮鲰鲱"⟩,
   ⟨0xF6, 0xEF, "鲲鲳鲴鲵鲶鲷鲺鲻鲼鲽鳄鳅鳆鳇鳊鳋"⟩,
   ⟨0xF7, 0xA1, "鳌鳍鳎鳏鳐鳓鳔鳕鳗鳘鳙鳜鳝鳟鳢靼鞅鞑鞒鞔鞯鞫鞣鞲鞴骱骰骷鹘骶骺骼髁髀髅髂髋髌髑魅魃魇魉魈魍魑飨餍餮饕饔髟髡髦髯髫髻髭髹鬈鬏鬓鬟鬣麽麾縻麂麇麈麋麒鏖麝麟黛黜黝"⟩,
   ⟨0xF7, 0xEF, "黠黟黢黩黧黥黪黯鼢鼬鼯鼹鼷鼽鼾齄"⟩]

/-- The pairs that the first extension, GBK, adds or changes. -/
def extension : List PairRow :=
  [⟨0x81, 0x40, "丂丄丅丆丏丒丗丟丠両丣並丩丮丯丱丳丵丷丼乀乁乂乄乆乊乑乕乗乚乛乢乣乤乥乧乨乪乫乬乭乮乯乲乴乵乶乷乸乹乺乻乼乽乿亀亁亂亃亄亅亇亊\ufffd亐亖亗亙亜亝亞亣亪"⟩,
   ⟨0x81, 0x89, "亯亰亱亴亶亷亸亹亼亽亾仈仌仏仐仒仚仛仜仠仢仦仧仩仭仮仯仱仴仸仹仺仼仾伀伂伃伄伅伆伇伈伋伌伒伓伔伕伖伜伝伡伣伨伩伬伭伮伱伳伵伷伹伻伾伿佀佁佂佄佅佇佈佉佊佋佌佒"⟩,
   ⟨0x81, 0xD7, "佔佖佡佢佦佨佪佫佭佮佱佲併佷佸佹佺佽侀侁侂侅來侇侊侌侎侐侒侓侕侖侘侙侚侜侞侟価侢"⟩,
   ⟨0x82, 0x40, "侤侫侭侰侱侲侳侴侶侷侸侹侺侻侼侽侾俀俁係俆俇俈俉俋俌俍俒俓俔俕俖俙俛俠俢俤俥俧俫俬俰俲俴俵俶俷俹俻俼俽俿倀倁倂倃倄倅倆倇倈倉倊\ufffd個倎倐們倓倕倖倗倛"⟩,
   ⟨0x82, 0x89, "倝倞倠倢倣値倧倫倯倰倱倲倳倴倵倶倷倸倹倻倽倿偀偁偂偄偅偆偉偊偋偍偐偑偒偓偔偖偗偘偙偛偝偞偟偠偡偢偣偤偦偧偨偩偪偫偭偮偯偰偱偲偳側偵偸偹偺偼偽傁傂傃傄傆傇傉傊"⟩,
   ⟨0x82, 0xD7, "傋傌傎傏傐傑傒傓傔傕傖傗傘備傚傛傜傝傞傟傠傡傢傤傦傪傫傭傮傯傰傱傳傴債傶傷傸傹傼"⟩,
   ⟨0x83, 0x40, "傽傾傿僀僁僂僃僄僅僆僇僈僉僊僋僌働僎僐僑僒僓僔僕僗僘僙僛僜僝僞僟僠僡僢僣僤僥僨僩僪僫僯僰僱僲僴僶僷僸價僺僼僽僾僿儀儁儂儃億儅儈\ufffd儉儊儌儍儎儏儐儑儓"⟩,
   ⟨0x83, 0x89, "儔儕儖儗儘儙儚儛儜儝儞償儠儢儣儤儥儦儧儨儩優儫儬儭儮儯儰儱儲儳儴儵儶儷儸儹儺儻儼儽儾兂兇兊兌兎兏児兒兓兗兘兙兛兝兞兟兠兡兣兤兦內兩兪兯兲兺兾兿冃冄円冇冊冋冎"⟩,
   ⟨0x83, 0xD7, "冏冐冑冓冔冘冚冝冞冟冡冣冦冧冨冩冪冭冮冴冸冹冺冾冿凁凂凃凅凈凊凍凎凐凒凓凔凕凖凗"⟩,
   ⟨0x84, 0x40, "凘凙凚凜凞凟凢凣凥処凧凨凩凪凬凮凱凲凴凷凾刄刅刉刋刌刏刐刓刔刕刜刞刟刡刢刣別刦刧刪刬刯刱刲刴刵刼刾剄剅剆則剈剉剋剎剏剒剓剕剗剘\ufffd剙剚剛剝剟剠剢剣剤"⟩,
   ⟨0x84, 0x89, "剦剨剫剬剭剮剰剱剳剴創剶剷剸剹剺剻剼剾劀劃劄劅劆劇劉劊劋劌劍劎劏劑劒劔劕劖劗劘劙劚劜劤劥劦劧劮劯劰労劵劶劷劸効劺劻劼劽勀勁勂勄勅勆勈勊勌勍勎勏勑勓勔動勗務勚"⟩,
   ⟨0x84, 0xD7, "勛勜勝勞勠勡勢勣勥勦勧勨勩勪勫勬勭勮勯勱勲勳勴勵勶勷勸勻勼勽匁匂匃匄匇匉匊匋匌匎"⟩,
   ⟨0x85, 0x40, "匑匒匓匔匘匛匜匞匟匢匤匥匧匨匩匫匬匭匯匰匱匲匳匴匵匶匷匸匼匽區卂卄卆卋卌卍卐協単卙卛卝卥卨卪卬卭卲卶卹卻卼卽卾厀厁厃厇厈厊厎厏\ufffd厐厑厒厓厔厖厗厙厛"⟩,
   ⟨0x85, 0x89, "厜厞厠厡厤厧厪厫厬厭厯厰厱厲厳厴厵厷厸厹厺厼厽厾叀參叄叅叆叇収叏叐叒叓叕叚叜叝叞叡叢叧叴叺叾叿吀吂吅吇吋吔吘吙吚吜吢吤吥吪吰吳吶吷吺吽吿呁呂呄呅呇呉呌呍呎呏"⟩,
   ⟨0x85, 0xD7, "呑呚呝呞呟呠呡呣呥呧呩呪呫呬呭呮呯呰呴呹呺呾呿咁咃咅咇咈咉咊咍咑咓咗咘咜咞咟咠咡"⟩,
   ⟨0x86, 0x40, "咢咥咮咰咲咵咶咷咹咺咼咾哃哅哊哋哖哘哛哠員哢哣哤哫哬哯哰哱哴哵哶哷哸哹哻哾唀唂唃唄唅唈唊唋唌唍唎唒唓唕唖唗唘唙唚唜唝唞唟唡唥唦\ufffd唨唩唫唭唲唴唵唶唸"⟩,
   ⟨0x86, 0x89, "唹唺唻唽啀啂啅啇啈啋啌啍啎問啑啒啓啔啗啘啙啚啛啝啞啟啠啢啣啨啩啫啯啰啱啲啳啴啹啺啽啿喅喆喌喍喎喐喒喓喕喖喗喚喛喞喠喡喢喣喤喥喦喨喩喪喫喬喭單喯喰喲喴営喸喺喼"⟩,
   ⟨0x86, 0xD7, "喿嗀嗁嗂嗃嗆嗇嗈嗊嗋嗎嗏嗐嗕嗗嗘嗙嗚嗛嗞嗠嗢嗧嗩嗭嗮嗰嗱嗴嗶嗸嗹嗺嗻嗼嗿嘂嘃嘄嘅"⟩,
   ⟨0x87, 0x40, "嘆嘇嘊嘋嘍嘐嘑嘒嘓嘔嘕嘖嘗嘙嘚嘜嘝嘠嘡嘢嘥嘦嘨嘩嘪嘫嘮嘯嘰嘳嘵嘷嘸嘺嘼嘽嘾噀噁噂噃噄噅噆噇噈噉噊噋噏噐噑噒噓噕噖噚噛噝噞噟噠噡\ufffd噣噥噦噧噭噮噯噰噲"⟩,
   ⟨0x87, 0x89, "噳噴噵噷噸噹噺噽噾噿嚀嚁嚂嚃嚄嚇嚈嚉嚊嚋嚌嚍嚐嚑嚒嚔嚕嚖嚗嚘嚙嚚嚛嚜嚝嚞嚟嚠嚡嚢嚤嚥嚦嚧嚨嚩嚪嚫嚬嚭嚮嚰嚱嚲嚳嚴嚵嚶嚸嚹嚺嚻嚽嚾嚿囀囁囂囃囄囅囆囇囈囉囋囌囍"⟩,
   ⟨0x87, 0xD7, "囎囏囐囑囒囓囕囖囘囙囜団囥囦囧囨囩囪囬囮囯囲図囶囷囸囻囼圀圁圂圅圇國圌圍圎圏圐圑"⟩,
   ⟨0x88, 0x40, "園圓圔圕圖圗團圙圚圛圝圞圠圡圢圤圥圦圧圫圱圲圴圵圶圷圸圼圽圿坁坃坄坅坆坈坉坋坒坓坔坕坖坘坙坢坣坥坧坬坮坰坱坲坴坵坸坹坺坽坾坿垀\ufffd垁垇垈垉垊垍垎垏垐"⟩,
   ⟨0x88, 0x89, "垑垔垕垖垗垘垙垚垜垝垞垟垥垨垪垬垯垰垱垳垵垶垷垹垺垻垼垽垾垿埀埁埄埅埆埇埈埉埊埌埍埐埑埓埖埗埛埜埞埡埢埣埥埦埧埨埩埪埫埬埮埰埱埲埳埵埶執埻埼埾埿堁堃堄堅堈堉"⟩,
   ⟨0x88, 0xD7, "堊堌堎堏堐堒堓堔堖堗堘堚堛堜堝堟堢堣堥堦堧堨堩堫堬堭堮堯報堲堳場堶堷堸堹堺堻堼堽"⟩,
   ⟨0x89, 0x40, "堾堿塀塁塂塃塅塆塇塈塉塊塋塎塏塐塒塓塕塖塗塙塚塛塜塝塟塠塡塢塣塤塦塧塨塩塪塭塮塯塰塱塲塳塴塵塶塷塸塹塺塻塼塽塿墂墄墆墇墈墊墋墌\ufffd墍墎墏墐墑墔墕墖増"⟩,
   ⟨0x89, 0x89, "墘墛墜墝墠墡墢墣墤墥墦墧墪墫墬墭墮墯墰墱墲墳墴墵墶墷墸墹墺墻墽墾墿壀壂壃壄壆壇壈壉壊壋壌壍壎壏壐壒壓壔壖壗壘壙壚壛壜壝壞壟壠壡壢壣壥壦壧壨壩壪壭壯壱売壴壵壷"⟩,
   ⟨0x89, 0xD7, "壸壺壻壼壽壾壿夀夁夃夅夆夈変夊夋夌夎夐夑夒夓夗夘夛夝夞夠夡夢夣夦夨夬夰夲夳夵夶夻"⟩,
   ⟨0x8A, 0x40, "夽夾夿奀奃奅奆奊奌奍奐奒奓奙奛奜奝奞奟奡奣奤奦奧奨奩奪奫奬奭奮奯奰奱奲奵奷奺奻奼奾奿妀妅妉妋妌妎妏妐妑妔妕妘妚妛妜妝妟妠妡妢妦\ufffd妧妬妭妰妱妳妴妵妶"⟩,
   ⟨0x8A, 0x89, "妷妸妺妼妽妿姀姁姂姃姄姅姇姈姉姌姍姎姏姕姖姙姛姞姟姠姡姢姤姦姧姩姪姫姭姮姯姰姱姲姳姴姵姶姷姸姺姼姽姾娀娂娊娋娍娎娏娐娒娔娕娖娗娙娚娛娝娞娡娢娤娦娧娨娪娫娬娭"⟩,
   ⟨0x8A, 0xD7, "娮娯娰娳娵娷娸娹娺娻娽娾娿婁婂婃婄婅婇婈婋婌婍婎婏婐婑婒婓婔婖婗婘婙婛婜婝婞婟婠"⟩,
   ⟨0x8B, 0x40, "婡婣婤婥婦婨婩婫婬婭婮婯婰婱婲婳婸婹婻婼婽婾媀媁媂媃媄媅媆媇媈媉媊媋媌媍媎媏媐媑媓媔媕媖媗媘媙媜媝媞媟媠媡媢媣媤媥媦媧媨媩媫媬\ufffd媭媮媯媰媱媴媶媷媹"⟩,
   ⟨0x8B, 0x89, "媺媻媼媽媿嫀嫃嫄嫅嫆嫇嫈嫊嫋嫍嫎嫏嫐嫑嫓嫕嫗嫙嫚嫛嫝嫞嫟嫢嫤嫥嫧嫨嫪嫬嫭嫮嫯嫰嫲嫳嫴嫵嫶嫷嫸嫹嫺嫻嫼嫽嫾嫿嬀嬁嬂嬃嬄嬅嬆嬇嬈嬊嬋嬌嬍嬎嬏嬐嬑嬒嬓嬔嬕嬘嬙嬚嬛"⟩,
   ⟨0x8B, 0xD7, "嬜嬝嬞嬟嬠嬡嬢嬣嬤嬥嬦嬧嬨嬩嬪嬫嬬嬭嬮嬯嬰嬱嬳嬵嬶嬸嬹嬺嬻嬼嬽嬾嬿孁孂孃孄孅孆孇"⟩,
   ⟨0x8C, 0x40, "孈孉孊孋孌孍孎孏孒孖孞孠孡孧孨孫孭孮孯孲孴孶孷學孹孻孼孾孿宂宆宊宍宎宐宑宒宔宖実宧宨宩宬宭宮宯宱宲宷宺宻宼寀寁寃寈寉寊寋寍寎寏\ufffd寑寔寕寖寗寘寙寚寛"⟩,
   ⟨0x8C, 0x89, "寜寠寢寣實寧審寪寫寬寭寯寱寲寳寴寵寶寷寽対尀専尃尅將專尋尌對導尐尒尓尗尙尛尞尟尠尡尣尦尨尩尪尫尭尮尯尰尲尳尵尶尷屃屄屆屇屌屍屒屓屔屖屗屘屚屛屜屝屟屢層屧屨屩"⟩,
   ⟨0x8C, 0xD7, "屪屫屬屭屰屲屳屴屵屶屷屸屻屼屽屾岀岃岄岅岆岇岉岊岋岎岏岒岓岕岝岞岟岠岡岤岥岦岧岨"⟩,
   ⟨0x8D, 0x40, "岪岮岯岰岲岴岶岹岺岻岼岾峀峂峃峅峆峇峈峉峊峌峍峎峏峐峑峓峔峕峖峗峘峚峛峜峝峞峟峠峢峣峧峩峫峬峮峯峱峲峳峴峵島峷峸峹峺峼峽峾峿崀\ufffd崁崄崅崈崉崊崋崌崍"⟩,
   ⟨0x8D, 0x89, "崏崐崑崒崓崕崗崘崙崚崜崝崟崠崡崢崣崥崨崪崫崬崯崰崱崲崳崵崶崷崸崹崺崻崼崿嵀嵁嵂嵃嵄嵅嵆嵈嵉嵍嵎嵏嵐嵑嵒嵓嵔嵕嵖嵗嵙嵚嵜嵞嵟嵠嵡嵢嵣嵤嵥嵦嵧嵨嵪嵭嵮嵰嵱嵲嵳嵵"⟩,
   ⟨0x8D, 0xD7, "嵶嵷嵸嵹嵺嵻嵼嵽嵾嵿嶀嶁嶃嶄嶅嶆嶇嶈嶉嶊嶋嶌嶍嶎嶏嶐嶑嶒嶓嶔嶕嶖嶗嶘嶚嶛嶜嶞嶟嶠"⟩,
   ⟨0x8E, 0x40, "嶡嶢嶣嶤嶥嶦嶧嶨嶩嶪嶫嶬嶭嶮嶯嶰嶱嶲嶳嶴嶵嶶嶸嶹嶺嶻嶼嶽嶾嶿巀巁巂巃巄巆巇巈巉巊巋巌巎巏巐巑巒巓巔巕巖巗巘巙巚巜巟巠巣巤巪巬巭\ufffd巰巵巶巸巹巺巻巼巿"⟩,
   ⟨0x8E, 0x89, "帀帄帇帉帊帋帍帎帒帓帗帞帟帠帡帢帣帤帥帨帩帪師帬帯帰帲帳帴帵帶帹帺帾帿幀幁幃幆幇幈幉幊幋幍幎幏幐幑幒幓幖幗幘幙幚幜幝幟幠幣幤幥幦幧幨幩幪幫幬幭幮幯幰幱幵幷幹"⟩,
   ⟨0x8E, 0xD7, "幾庁庂広庅庈庉庌庍庎庒庘庛庝庡庢庣庤庨庩庪庫庬庮庯庰庱庲庴庺庻庼庽庿廀廁廂廃廄廅"⟩,
   ⟨0x8F, 0x40, "廆廇廈廋廌廍廎廏廐廔廕廗廘廙廚廜廝廞廟廠廡廢廣廤廥廦廧廩廫廬廭廮廯廰廱廲廳廵廸廹廻廼廽弅弆弇弉弌弍弎弐弒弔弖弙弚弜弝弞弡弢弣弤\ufffd弨弫弬弮弰弲弳弴張"⟩,
   ⟨0x8F, 0x89, "弶強弸弻弽弾弿彁彂彃彄彅彆彇彈彉彊彋彌彍彎彏彑彔彙彚彛彜彞彟彠彣彥彧彨彫彮彯彲彴彵彶彸彺彽彾彿徃徆徍徎徏徑従徔徖徚徛徝從徟徠徢徣徤徥徦徧復徫徬徯徰徱徲徳徴徶"⟩,
   ⟨0x8F, 0xD7, "徸徹徺徻徾徿忀忁忂忇忈忊忋忎忓忔忕忚忛応忞忟忢忣忥忦忨忩忬忯忰忲忳忴忶忷忹忺忼怇"⟩,
   ⟨0x90, 0x40, "怈怉怋怌怐怑怓怗怘怚怞怟怢怣怤怬怭怮怰怱怲怳怴怶怷怸怹怺怽怾恀恄恅恆恇恈恉恊恌恎恏恑恓恔恖恗恘恛恜恞恟恠恡恥恦恮恱恲恴恵恷恾悀\ufffd悁悂悅悆悇悈悊悋悎"⟩,
   ⟨0x90, 0x89, "悏悐悑悓悕悗悘悙悜悞悡悢悤悥悧悩悪悮悰悳悵悶悷悹悺悽悾悿惀惁惂惃惄惇惈惉惌惍惎惏惐惒惓惔惖惗惙惛惞惡惢惣惤惥惪惱惲惵惷惸惻惼惽惾惿愂愃愄愅愇愊愋愌愐愑愒愓愔"⟩,
   ⟨0x90, 0xD7, "愖愗愘愙愛愜愝愞愡愢愥愨愩愪愬愭愮愯愰愱愲愳愴愵愶愷愸愹愺愻愼愽愾慀慁慂慃慄慅慆"⟩,
   ⟨0x91, 0x40, "慇慉態慍慏慐慒慓慔慖慗慘慙慚慛慜慞慟慠慡慣慤慥慦慩慪慫慬慭慮慯慱慲慳慴慶慸慹慺慻慼慽慾慿憀憁憂憃憄憅憆憇憈憉憊憌憍憏憐憑憒憓憕\ufffd憖憗憘憙憚憛憜憞憟"⟩,
   ⟨0x91, 0x89, "憠憡憢憣憤憥憦憪憫憭憮憯憰憱憲憳憴憵憶憸憹憺憻憼憽憿懀懁懃懄懅懆懇應懌懍懎懏懐懓懕懖懗懘懙懚懛懜懝懞懟懠懡懢懣懤懥懧懨懩懪懫懬懭懮懯懰懱懲懳懴懶懷懸懹懺懻懼"⟩,
   ⟨0x91, 0xD7, "懽懾戀戁戂戃戄戅戇戉戓戔戙戜戝戞戠戣戦戧戨戩戫戭戯戰戱戲戵戶戸戹戺戻戼扂扄扅扆扊"⟩,
   ⟨0x92, 0x40, "扏扐払扖扗扙扚扜扝扞扟扠扡扢扤扥扨扱扲扴扵扷扸扺扻扽抁抂抃抅抆抇抈抋抌抍抎抏抐抔抙抜抝択抣抦抧抩抪抭抮抯抰抲抳抴抶抷抸抺抾拀拁\ufffd拃拋拏拑拕拝拞拠拡"⟩,
   ⟨0x92, 0x89, "拤拪拫拰拲拵拸拹拺拻挀挃挄挅挆挊挋挌挍挏挐挒挓挔挕挗挘挙挜挦挧挩挬挭挮挰挱挳挴挵挶挷挸挻挼挾挿捀捁捄捇捈捊捑捒捓捔捖捗捘捙捚捛捜捝捠捤捥捦捨捪捫捬捯捰捲捳捴"⟩,
   ⟨0x92, 0xD7, "捵捸捹捼捽捾捿掁掃掄掅掆掋掍掑掓掔掕掗掙掚掛掜掝掞掟採掤掦掫掯掱掲掵掶掹掻掽掿揀"⟩,
   ⟨0x93, 0x40, "揁揂揃揅揇揈揊揋揌揑揓揔揕揗揘揙揚換揜揝揟揢揤揥揦揧揨揫揬揮揯揰揱揳揵揷揹揺揻揼揾搃搄搆搇搈搉搊損搎搑搒搕搖搗搘搙搚搝搟搢搣搤\ufffd搥搧搨搩搫搮搯搰搱"⟩,
   ⟨0x93, 0x89, "搲搳搵搶搷搸搹搻搼搾摀摂摃摉摋摌摍摎摏摐摑摓摕摖摗摙摚摛摜摝摟摠摡摢摣摤摥摦摨摪摫摬摮摯摰摱摲摳摴摵摶摷摻摼摽摾摿撀撁撃撆撈撉撊撋撌撍撎撏撐撓撔撗撘撚撛撜撝"⟩,
   ⟨0x93, 0xD7, "撟撠撡撢撣撥撦撧撨撪撫撯撱撲撳撴撶撹撻撽撾撿擁擃擄擆擇擈擉擊擋擌擏擑擓擔擕擖擙據"⟩,
   ⟨0x94, 0x40, "擛擜擝擟擠擡擣擥擧擨擩擪擫擬擭擮擯擰擱擲擳擴擵擶擷擸擹擺擻擼擽擾擿攁攂攃攄攅攆攇攈攊攋攌攍攎攏攐攑攓攔攕攖攗攙攚攛攜攝攞攟攠攡\ufffd攢攣攤攦攧攨攩攪攬"⟩,
   ⟨0x94, 0x89, "攭攰攱攲攳攷攺攼攽敀敁敂敃敄敆敇敊敋敍敎敐敒敓敔敗敘敚敜敟敠敡敤敥敧敨敩敪敭敮敯敱敳敵敶數敹敺敻敼敽敾敿斀斁斂斃斄斅斆斈斉斊斍斎斏斒斔斕斖斘斚斝斞斠斢斣斦斨"⟩,
   ⟨0x94, 0xD7, "斪斬斮斱斲斳斴斵斶斷斸斺斻斾斿旀旂旇旈旉旊旍旐旑旓旔旕旘旙旚旛旜旝旞旟旡旣旤旪旫"⟩,
   ⟨0x95, 0x40, "旲旳旴旵旸旹旻旼旽旾旿昁昄昅昇昈昉昋昍昐昑昒昖昗昘昚昛昜昞昡昢昣昤昦昩昪昫昬昮昰昲昳昷昸昹昺昻昽昿晀時晄晅晆晇晈晉晊晍晎晐晑晘\ufffd晙晛晜晝晞晠晢晣晥"⟩,
   ⟨0x95, 0x89, "晧晩晪晫晬晭晱晲晳晵晸晹晻晼晽晿暀暁暃暅暆暈暉暊暋暍暎暏暐暒暓暔暕暘暙暚暛暜暞暟暠暡暢暣暤暥暦暩暪暫暬暭暯暰暱暲暳暵暶暷暸暺暻暼暽暿曀曁曂曃曄曅曆曇曈曉曊曋"⟩,
   ⟨0x95, 0xD7, "曌曍曎曏曐曑曒曓曔曕曖曗曘曚曞曟曠曡曢曣曤曥曧曨曪曫曬曭曮曯曱曵曶書曺曻曽朁朂會"⟩,
   ⟨0x96, 0x40, "朄朅朆朇朌朎朏朑朒朓朖朘朙朚朜朞朠朡朢朣朤朥朧朩朮朰朲朳朶朷朸朹朻朼朾朿杁杄杅杇杊杋杍杒杔杕杗杘杙杚杛杝杢杣杤杦杧杫杬杮東杴杶\ufffd杸杹杺杻杽枀枂枃枅"⟩,
   ⟨0x96, 0x89, "枆枈枊枌枍枎枏枑枒枓枔枖枙枛枟枠枡枤枦枩枬枮枱枲枴枹枺枻枼枽枾枿柀柂柅柆柇柈柉柊柋柌柍柎柕柖柗柛柟柡柣柤柦柧柨柪柫柭柮柲柵柶柷柸柹柺査柼柾栁栂栃栄栆栍栐栒栔"⟩,
   ⟨0x96, 0xD7, "栕栘栙栚栛栜栞栟栠栢栣栤栥栦栧栨栫栬栭栮栯栰栱栴栵栶栺栻栿桇桋桍桏桒桖桗桘桙桚桛"⟩,
   ⟨0x97, 0x40, "桜桝桞桟桪桬桭桮桯桰桱桲桳桵桸桹桺桻桼桽桾桿梀梂梄梇梈梉梊梋梌梍梎梐梑梒梔梕梖梘梙梚梛梜條梞梟梠梡梣梤梥梩梪梫梬梮梱梲梴梶梷梸\ufffd梹梺梻梼梽梾梿棁棃"⟩,
   ⟨0x97, 0x89, "棄棅棆棇棈棊棌棎棏棐棑棓棔棖棗棙棛棜棝棞棟棡棢棤棥棦棧棨棩棪棫棬棭棯棲棳棴棶棷棸棻棽棾棿椀椂椃椄椆椇椈椉椊椌椏椑椓椔椕椖椗椘椙椚椛検椝椞椡椢椣椥椦椧椨椩椪椫"⟩,
   ⟨0x97, 0xD7, "椬椮椯椱椲椳椵椶椷椸椺椻椼椾楀楁楃楄楅楆楇楈楉楊楋楌楍楎楏楐楑楒楓楕楖楘楙楛楜楟"⟩,
   ⟨0x98, 0x40, "楡楢楤楥楧楨楩楪楬業楯楰楲楳楴極楶楺楻楽楾楿榁榃榅榊榋榌榎榏榐榑榒榓榖榗榙榚榝榞榟榠榡榢榣榤榥榦榩榪榬榮榯榰榲榳榵榶榸榹榺榼榽\ufffd榾榿槀槂槃槄槅槆槇"⟩,
   ⟨0x98, 0x89, "槈槉構槍槏槑槒槓槕槖槗様槙槚槜槝槞槡槢槣槤槥槦槧槨槩槪槫槬槮槯槰槱槳槴槵槶槷槸槹槺槻槼槾樀樁樂樃樄樅樆樇樈樉樋樌樍樎樏樐樑樒樓樔樕樖標樚樛樜樝樞樠樢樣樤樥樦"⟩,
   ⟨0x98, 0xD7, "樧権樫樬樭樮樰樲樳樴樶樷樸樹樺樻樼樿橀橁橂橃橅橆橈橉橊橋橌橍橎橏橑橒橓橔橕橖橗橚"⟩,
   ⟨0x99, 0x40, "橜橝橞機橠橢橣橤橦橧橨橩橪橫橬橭橮橯橰橲橳橴橵橶橷橸橺橻橽橾橿檁檂檃檅檆檇檈檉檊檋檌檍檏檒檓檔檕檖檘檙檚檛檜檝檞檟檡檢檣檤檥檦\ufffd檧檨檪檭檮檯檰檱檲"⟩,
   ⟨0x99, 0x89, "檳檴檵檶檷檸檹檺檻檼檽檾檿櫀櫁櫂櫃櫄櫅櫆櫇櫈櫉櫊櫋櫌櫍櫎櫏櫐櫑櫒櫓櫔櫕櫖櫗櫘櫙櫚櫛櫜櫝櫞櫟櫠櫡櫢櫣櫤櫥櫦櫧櫨櫩櫪櫫櫬櫭櫮櫯櫰櫱櫲櫳櫴櫵櫶櫷櫸櫹櫺櫻櫼櫽櫾櫿欀"⟩,
   ⟨0x99, 0xD7, "欁欂欃欄欅欆欇欈欉權欋欌欍欎欏欐欑欒欓欔欕欖欗欘欙欚欛欜欝欞欟欥欦欨欩欪欫欬欭欮"⟩,
   ⟨0x9A, 0x40, "欯欰欱欳欴欵欶欸欻欼欽欿歀歁歂歄歅歈歊歋歍歎歏歐歑歒歓歔歕歖歗歘歚歛歜歝歞歟歠歡歨歩歫歬歭歮歯歰歱歲歳歴歵歶歷歸歺歽歾歿殀殅殈\ufffd殌殎殏殐殑殔殕殗殘"⟩,
   ⟨0x9A, 0x89, "殙殜殝殞殟殠殢殣殤殥殦殧殨殩殫殬殭殮殯殰殱殲殶殸殹殺殻殼殽殾毀毃毄毆毇毈毉毊毌毎毐毑毘毚毜毝毞毟毠毢毣毤毥毦毧毨毩毬毭毮毰毱毲毴毶毷毸毺毻毼毾毿氀氁氂氃氄氈"⟩,
   ⟨0x9A, 0xD7, "氉氊氋氌氎氒気氜氝氞氠氣氥氫氬氭氱氳氶氷氹氺氻氼氾氿汃汄汅汈汋汌汍汎汏汑汒汓汖汘"⟩,
   ⟨0x9B, 0x40, "汙汚汢汣汥汦汧汫汬汭汮汯汱汳汵汷汸決汻汼汿沀沄沇沊沋沍沎沑沒沕沖沗沘沚沜沝沞沠沢沨沬沯沰沴沵沶沷沺泀況泂泃泆泇泈泋泍泎泏泑泒泘\ufffd泙泚泜泝泟泤泦泧泩"⟩,
   ⟨0x9B, 0x89, "泬泭泲泴泹泿洀洂洃洅洆洈洉洊洍洏洐洑洓洔洕洖洘洜洝洟洠洡洢洣洤洦洨洩洬洭洯洰洴洶洷洸洺洿浀浂浄浉浌浐浕浖浗浘浛浝浟浡浢浤浥浧浨浫浬浭浰浱浲浳浵浶浹浺浻浽浾浿"⟩,
   ⟨0x9B, 0xD7, "涀涁涃涄涆涇涊涋涍涏涐涒涖涗涘涙涚涜涢涥涬涭涰涱涳涴涶涷涹涺涻涼涽涾淁淂淃淈淉淊"⟩,
   ⟨0x9C, 0x40, "淍淎淏淐淒淓淔淕淗淚淛淜淟淢淣淥淧淨淩淪淭淯淰淲淴淵淶淸淺淽淾淿渀渁渂渃渄渆渇済渉渋渏渒渓渕渘渙減渜渞渟渢渦渧渨渪測渮渰渱渳渵\ufffd渶渷渹渻渼渽渾渿湀"⟩,
   ⟨0x9C, 0x89, "湁湂湅湆湇湈湉湊湋湌湏湐湑湒湕湗湙湚湜湝湞湠湡湢湣湤湥湦湧湨湩湪湬湭湯湰湱湲湳湴湵湶湷湸湹湺湻湼湽満溁溂溄溇溈溊溋溌溍溎溑溒溓溔溕準溗溙溚溛溝溞溠溡溣溤溦溨"⟩,
   ⟨0x9C, 0xD7, "溩溫溬溭溮溰溳溵溸溹溼溾溿滀滃滄滅滆滈滉滊滌滍滎滐滒滖滘滙滛滜滝滣滧滪滫滬滭滮滯"⟩,
   ⟨0x9D, 0x40, "滰滱滲滳滵滶滷滸滺滻滼滽滾滿漀漁漃漄漅漇漈漊漋漌漍漎漐漑漒漖漗漘漙漚漛漜漝漞漟漡漢漣漥漦漧漨漬漮漰漲漴漵漷漸漹漺漻漼漽漿潀潁潂\ufffd潃潄潅潈潉潊潌潎潏"⟩,
   ⟨0x9D, 0x89, "潐潑潒潓潔潕潖潗潙潚潛潝潟潠潡潣潤潥潧潨潩潪潫潬潯潰潱潳潵潶潷潹潻潽潾潿澀澁澂澃澅澆澇澊澋澏澐澑澒澓澔澕澖澗澘澙澚澛澝澞澟澠澢澣澤澥澦澨澩澪澫澬澭澮澯澰澱澲"⟩,
   ⟨0x9D, 0xD7, "澴澵澷澸澺澻澼澽澾澿濁濃濄濅濆濇濈濊濋濌濍濎濏濐濓濔濕濖濗濘濙濚濛濜濝濟濢濣濤濥"⟩,
   ⟨0x9E, 0x40, "濦濧濨濩濪濫濬濭濰濱濲濳濴濵濶濷濸濹濺濻濼濽濾濿瀀瀁瀂瀃瀄瀅瀆瀇瀈瀉瀊瀋瀌瀍瀎瀏瀐瀒瀓瀔瀕瀖瀗瀘瀙瀜瀝瀞瀟瀠瀡瀢瀤瀥瀦瀧瀨瀩瀪\ufffd瀫瀬瀭瀮瀯瀰瀱瀲瀳"⟩,
   ⟨0x9E, 0x89, "瀴瀶瀷瀸瀺瀻瀼瀽瀾瀿灀灁灂灃灄灅灆灇灈灉灊灋灍灎灐灑灒灓灔灕灖灗灘灙灚灛灜灝灟灠灡灢灣灤灥灦灧灨灩灪灮灱灲灳灴灷灹灺灻災炁炂炃炄炆炇炈炋炌炍炏炐炑炓炗炘炚炛"⟩,
   ⟨0x9E, 0xD7, "炞炟炠炡炢炣炤炥炦炧炨炩炪炰炲炴炵炶為炾炿烄烅烆烇烉烋烌烍烎烏烐烑烒烓烔烕烖烗烚"⟩,
   ⟨0x9F, 0x40, "烜烝烞烠烡烢烣烥烪烮烰烱烲烳烴烵烶烸烺烻烼烾烿焀焁焂焃焄焅焆焇焈焋焌焍焎焏焑焒焔焗焛焜焝焞焟焠無焢焣焤焥焧焨焩焪焫焬焭焮焲焳焴\ufffd焵焷焸焹焺焻焼焽焾"⟩,
   ⟨0x9F, 0x89, "焿煀煁煂煃煄煆煇煈煉煋煍煏煐煑煒煓煔煕煖煗煘煙煚煛煝煟煠煡煢煣煥煩煪煫煬煭煯煰煱煴煵煶煷煹煻煼煾煿熀熁熂熃熅熆熇熈熉熋熌熍熎熐熑熒熓熕熖熗熚熛熜熝熞熡熢熣熤"⟩,
   ⟨0x9F, 0xD7, "熥熦熧熩熪熫熭熮熯熰熱熲熴熶熷熸熺熻熼熽熾熿燀燁燂燄燅燆燇燈燉燊燋燌燍燏燐燑燒燓"⟩,
   ⟨0xA0, 0x40, "燖燗燘燙燚燛燜燝燞營燡燢燣燤燦燨燩燪燫燬燭燯燰燱燲燳燴燵燶燷燸燺燻燼燽燾燿爀爁爂爃爄爅爇爈爉爊爋爌爍爎爏爐爑爒爓爔爕爖爗爘爙爚\ufffd爛爜爞爟爠爡爢爣爤"⟩,
   ⟨0xA0, 0x89, "爥爦爧爩爫爭爮爯爲爳爴爺爼爾牀牁牂牃牄牅牆牉牊牋牎牏牐牑牓牔牕牗牘牚牜牞牠牣牤牥牨牪牫牬牭牰牱牳牴牶牷牸牻牼牽犂犃犅犆犇犈犉犌犎犐犑犓犔犕犖犗犘犙犚犛犜犝犞"⟩,
   ⟨0xA0, 0xD7, "犠犡犢犣犤犥犦犧犨犩犪犫犮犱犲犳犵犺犻犼犽犾犿狀狅狆狇狉狊狋狌狏狑狓狔狕狖狘狚狛"⟩, ⟨0xA1, 0xA4, "·"⟩, ⟨0xA1, 0xAA, "—"⟩,
   ⟨0xA2, 0xA1, "ⅰⅱⅲⅳⅴⅵⅶⅷⅸⅹ"⟩, ⟨0xA6, 0xE0, "︵︶︹︺︿﹀︽︾﹁﹂﹃﹄"⟩, ⟨0xA6, 0xEE, "︻︼︷︸︱\ufffd︳︴"⟩,
   ⟨0xA8, 0x40, "\u02ca\u02cb\u02d9–―‥‵℅℉↖↗↘↙∕∟∣≒≦≧⊿═║╒╓╔╕╖╗╘╙╚╛╜╝╞╟╠╡╢╣╤╥╦╧╨╩╪╫╬╭╮╯╰╱╲╳▁▂▃▄▅▆▇"⟩,
   ⟨0xA8, 0x7F, "\ufffd█▉▊▋▌▍▎▏▓▔▕▼▽◢◣◤◥☉⊕〒〝〞"⟩, ⟨0xA8, 0xBB, "ɑ\ufffdńň\ufffdɡ"⟩,
   ⟨0xA9, 0x40, "〡〢〣〤〥〦〧〨〩㊣㎎㎏㎜㎝㎞㎡㏄㏎㏑㏒㏕︰￢￤\ufffd℡㈱\ufffd‐"⟩,
   ⟨0xA9, 0x60, "ー゛゜ヽヾ〆ゝゞ﹉﹊﹋﹌﹍﹎﹏﹐﹑﹒﹔﹕﹖﹗﹙﹚﹛﹜﹝﹞﹟﹠﹡\ufffd﹢﹣﹤﹥﹦﹨﹩﹪﹫"⟩, ⟨0xA9, 0x96, "〇"⟩,
   ⟨0xAA, 0x40, "狜狝狟狢狣狤狥狦狧狪狫狵狶狹狽狾狿猀猂猄猅猆猇猈猉猋猌猍猏猐猑猒猔猘猙猚猟猠猣猤猦猧猨猭猯猰猲猳猵猶猺猻猼猽獀獁獂獃獄獅獆獇獈\ufffd獉獊獋獌獎獏獑獓獔"⟩,
   ⟨0xAA, 0x89, "獕獖獘獙獚獛獜獝獞獟獡獢獣獤獥獦獧獨獩獪獫獮獰獱"⟩,
   ⟨0xAB, 0x40, "獲獳獴獵獶獷獸獹獺獻獼獽獿玀玁玂玃玅玆玈玊玌玍玏玐玒玓玔玕玗玘玙玚玜玝玞玠玡玣玤玥玦玧玨玪玬玭玱玴玵玶玸玹玼玽玾玿珁珃珄珅珆珇\ufffd珋珌珎珒珓珔珕珖珗"⟩,
   ⟨0xAB, 0x89, "珘珚珛珜珝珟珡珢珣珤珦珨珪珫珬珮珯珰珱珳珴珵珶珷"⟩,
   ⟨0xAC, 0x40, "珸珹珺珻珼珽現珿琀琁琂琄琇琈琋琌琍琎琑琒琓琔琕琖琗琘琙琜琝琞琟琠琡琣琤琧琩琫琭琯琱琲琷琸琹琺琻琽琾琿瑀瑂瑃瑄瑅瑆瑇瑈瑉瑊瑋瑌瑍\ufffd瑎瑏瑐瑑瑒瑓瑔瑖瑘"⟩,
   ⟨0xAC, 0x89, "瑝瑠瑡瑢瑣瑤瑥瑦瑧瑨瑩瑪瑫瑬瑮瑯瑱瑲瑳瑴瑵瑸瑹瑺"⟩,
   ⟨0xAD, 0x40, "瑻瑼瑽瑿璂璄璅璆璈璉璊璌璍璏璑璒璓璔璕璖璗璘璙璚璛璝璟璠璡璢璣璤璥璦璪璫璬璭璮璯環璱璲璳璴璵璶璷璸璹璻璼璽璾璿瓀瓁瓂瓃瓄瓅瓆瓇\ufffd瓈瓉瓊瓋瓌瓍瓎瓏瓐"⟩,
   ⟨0xAD, 0x89, "瓑瓓瓔瓕瓖瓗瓘瓙瓚瓛瓝瓟瓡瓥瓧瓨瓩瓪瓫瓬瓭瓰瓱瓲"⟩,
   ⟨0xAE, 0x40, "瓳瓵瓸瓹瓺瓻瓼瓽瓾甀甁甂甃甅甆甇甈甉甊甋甌甎甐甒甔甕甖甗甛甝甞甠甡產産甤甦甧甪甮甴甶甹甼甽甿畁畂畃畄畆畇畉畊畍畐畑畒畓畕畖畗畘\ufffd畝畞畟畠畡畢畣畤畧"⟩,
   ⟨0xAE, 0x89, "畨畩畫畬畭畮畯異畱畳畵當畷畺畻畼畽畾疀疁疂疄疅疇"⟩,
   ⟨0xAF, 0x40, "疈疉疊疌疍疎疐疓疕疘疛疜疞疢疦疧疨疩疪疭疶疷疺疻疿痀痁痆痋痌痎痏痐痑痓痗痙痚痜痝痟痠痡痥痩痬痭痮痯痲痳痵痶痷痸痺痻痽痾瘂瘄瘆瘇\ufffd瘈瘉瘋瘍瘎瘏瘑瘒瘓"⟩,
   ⟨0xAF, 0x89, "瘔瘖瘚瘜瘝瘞瘡瘣瘧瘨瘬瘮瘯瘱瘲瘶瘷瘹瘺瘻瘽癁療癄"⟩,
   ⟨0xB0, 0x40, "癅癆癇癈癉癊癋癎癏癐癑癒癓癕癗癘癙癚癛癝癟癠癡癢癤癥癦癧癨癩癪癬癭癮癰癱癲癳癴癵癶癷癹発發癿皀皁皃皅皉皊皌皍皏皐皒皔皕皗皘皚皛\ufffd皜皝皞皟皠皡皢皣皥"⟩,
   ⟨0xB0, 0x89, "皦皧皨皩皪皫皬皭皯皰皳皵皶皷皸皹皺皻皼皽皾盀盁盃"⟩,
   ⟨0xB1, 0x40, "盄盇盉盋盌盓盕盙盚盜盝盞盠盡盢監盤盦盧盨盩盪盫盬盭盰盳盵盶盷盺盻盽盿眀眂眃眅眆眊県眎眏眐眑眒眓眔眕眖眗眘眛眜眝眞眡眣眤眥眧眪眫\ufffd眬眮眰眱眲眳眴眹眻"⟩,
   ⟨0xB1, 0x89, "眽眾眿睂睄睅睆睈睉睊睋睌睍睎睏睒睓睔睕睖睗睘睙睜"⟩,
   ⟨0xB2, 0x40, "睝睞睟睠睤睧睩睪睭睮睯睰睱睲睳睴睵睶睷睸睺睻睼瞁瞂瞃瞆瞇瞈瞉瞊瞋瞏瞐瞓瞔瞕瞖瞗瞘瞙瞚瞛瞜瞝瞞瞡瞣瞤瞦瞨瞫瞭瞮瞯瞱瞲瞴瞶瞷瞸瞹瞺\ufffd瞼瞾矀矁矂矃矄矅矆"⟩,
   ⟨0xB2, 0x89, "矇矈矉矊矋矌矎矏矐矑矒矓矔矕矖矘矙矚矝矞矟矠矡矤"⟩,
   ⟨0xB3, 0x40, "矦矨矪矯矰矱矲矴矵矷矹矺矻矼砃砄砅砆砇砈砊砋砎砏砐砓砕砙砛砞砠砡砢砤砨砪砫砮砯砱砲砳砵砶砽砿硁硂硃硄硆硈硉硊硋硍硏硑硓硔硘硙硚\ufffd硛硜硞硟硠硡硢硣硤"⟩,
   ⟨0xB3, 0x89, "硥硦硧硨硩硯硰硱硲硳硴硵硶硸硹硺硻硽硾硿碀碁碂碃"⟩,
   ⟨0xB4, 0x40, "碄碅碆碈碊碋碏碐碒碔碕碖碙碝碞碠碢碤碦碨碩碪碫碬碭碮碯碵碶碷碸確碻碼碽碿磀磂磃磄磆磇磈磌磍磎磏磑磒磓磖磗磘磚磛磜磝磞磟磠磡磢磣\ufffd磤磥磦磧磩磪磫磭磮"⟩,
   ⟨0xB4, 0x89, "磯磰磱磳磵磶磸磹磻磼磽磾磿礀礂礃礄礆礇礈礉礊礋礌"⟩,
   ⟨0xB5, 0x40, "礍礎礏礐礑礒礔礕礖礗礘礙礚礛礜礝礟礠礡礢礣礥礦礧礨礩礪礫礬礭礮礯礰礱礲礳礵礶礷礸礹礽礿祂祃祄祅祇祊祋祌祍祎祏祐祑祒祔祕祘祙祡祣\ufffd祤祦祩祪祫祬祮祰祱"⟩,
   ⟨0xB5, 0x89, "祲祳祴祵祶祹祻祼祽祾祿禂禃禆禇禈禉禋禌禍禎禐禑禒"⟩,
   ⟨0xB6, 0x40, "禓禔禕禖禗禘禙禛禜禝禞禟禠禡禢禣禤禥禦禨禩禪禫禬禭禮禯禰禱禲禴禵禶禷禸禼禿秂秄秅秇秈秊秌秎秏秐秓秔秖秗秙秚秛秜秝秞秠秡秢秥秨秪\ufffd秬秮秱秲秳秴秵秶秷"⟩,
   ⟨0xB6, 0x89, "秹秺秼秾秿稁稄稅稇稈稉稊稌稏稐稑稒稓稕稖稘稙稛稜"⟩,
   ⟨0xB7, 0x40, "稝稟稡稢稤稥稦稧稨稩稪稫稬稭種稯稰稱稲稴稵稶稸稺稾穀穁穂穃穄穅穇穈穉穊穋穌積穎穏穐穒穓穔穕穖穘穙穚穛穜穝穞穟穠穡穢穣穤穥穦穧穨\ufffd穩穪穫穬穭穮穯穱穲"⟩,
   ⟨0xB7, 0x89, "穳穵穻穼穽穾窂窅窇窉窊窋窌窎窏窐窓窔窙窚窛窞窡窢"⟩,
   ⟨0xB8, 0x40, "窣窤窧窩窪窫窮窯窰窱窲窴窵窶窷窸窹窺窻窼窽窾竀竁竂竃竄竅竆竇竈竉竊竌竍竎竏竐竑竒竓竔竕竗竘竚竛竜竝竡竢竤竧竨竩竪竫竬竮竰竱竲竳\ufffd竴竵競竷竸竻竼竾笀"⟩,
   ⟨0xB8, 0x89, "笁笂笅笇笉笌笍笎笐笒笓笖笗笘笚笜笝笟笡笢笣笧笩笭"⟩,
   ⟨0xB9, 0x40, "笯笰笲笴笵笶笷笹笻笽笿筀筁筂筃筄筆筈筊筍筎筓筕筗筙筜筞筟筡筣筤筥筦筧筨筩筪筫筬筭筯筰筳筴筶筸筺筼筽筿箁箂箃箄箆箇箈箉箊箋箌箎箏\ufffd箑箒箓箖箘箙箚箛箞"⟩,
   ⟨0xB9, 0x89, "箟箠箣箤箥箮箯箰箲箳箵箶箷箹箺箻箼箽箾箿節篂篃範"⟩,
   ⟨0xBA, 0x40, "篅篈築篊篋篍篎篏篐篒篔篕篖篗篘篛篜篞篟篠篢篣篤篧篨篩篫篬篭篯篰篲篳篴篵篶篸篹篺篻篽篿簀簁簂簃簄簅簆簈簉簊簍簎簐簑簒簓簔簕簗簘簙\ufffd簚簛簜簝簞簠簡簢簣"⟩,
   ⟨0xBA, 0x89, "簤簥簨簩簫簬簭簮簯簰簱簲簳簴簵簶簷簹簺簻簼簽簾籂"⟩,
   ⟨0xBB, 0x40, "籃籄籅籆籇籈籉籊籋籌籎籏籐籑籒籓籔籕籖籗籘籙籚籛籜籝籞籟籠籡籢籣籤籥籦籧籨籩籪籫籬籭籮籯籰籱籲籵籶籷籸籹籺籾籿粀粁粂粃粄粅粆粇\ufffd粈粊粋粌粍粎粏粐粓"⟩,
   ⟨0xBB, 0x89, "粔粖粙粚粛粠粡粣粦粧粨粩粫粬粭粯粰粴粵粶粷粸粺粻"⟩,
   ⟨0xBC, 0x40, "粿糀糂糃糄糆糉糋糎糏糐糑糒糓糔糘糚糛糝糞糡糢糣糤糥糦糧糩糪糫糬糭糮糰糱糲糳糴糵糶糷糹糺糼糽糾糿紀紁紂紃約紅紆紇紈紉紋紌納紎紏紐\ufffd紑紒紓純紕紖紗紘紙"⟩,
   ⟨0xBC, 0x89, "級紛紜紝紞紟紡紣紤紥紦紨紩紪紬紭紮細紱紲紳紴紵紶"⟩,
   ⟨0xBD, 0x40, "紷紸紹紺紻紼紽紾紿絀絁終絃組絅絆絇絈絉絊絋経絍絎絏結絑絒絓絔絕絖絗絘絙絚絛絜絝絞絟絠絡絢絣絤絥給絧絨絩絪絫絬絭絯絰統絲絳絴絵絶\ufffd絸絹絺絻絼絽絾絿綀"⟩,
   ⟨0xBD, 0x89, "綁綂綃綄綅綆綇綈綉綊綋綌綍綎綏綐綑綒經綔綕綖綗綘"⟩,
   ⟨0xBE, 0x40, "継続綛綜綝綞綟綠綡綢綣綤綥綧綨綩綪綫綬維綯綰綱網綳綴綵綶綷綸綹綺綻綼綽綾綿緀緁緂緃緄緅緆緇緈緉緊緋緌緍緎総緐緑緒緓緔緕緖緗緘緙\ufffd線緛緜緝緞緟締緡緢"⟩,
   ⟨0xBE, 0x89, "緣緤緥緦緧編緩緪緫緬緭緮緯緰緱緲緳練緵緶緷緸緹緺"⟩,
   ⟨0xBF, 0x40, "緻緼緽緾緿縀縁縂縃縄縅縆縇縈縉縊縋縌縍縎縏縐縑縒縓縔縕縖縗縘縙縚縛縜縝縞縟縠縡縢縣縤縥縦縧縨縩縪縫縬縭縮縯縰縱縲縳縴縵縶縷縸縹\ufffd縺縼總績縿繀繂繃繄"⟩,
   ⟨0xBF, 0x89, "繅繆繈繉繊繋繌繍繎繏繐繑繒繓織繕繖繗繘繙繚繛繜繝"⟩,
   ⟨0xC0, 0x40, "繞繟繠繡繢繣繤繥繦繧繨繩繪繫繬繭繮繯繰繱繲繳繴繵繶繷繸繹繺繻繼繽繾繿纀纁纃纄纅纆纇纈纉纊纋續纍纎纏纐纑纒纓纔纕纖纗纘纙纚纜纝纞\ufffd纮纴纻纼绖绤绬绹缊"⟩,
   ⟨0xC0, 0x89, "缐缞缷缹缻缼缽缾缿罀罁罃罆罇罈罉罊罋罌罍罎罏罒罓"⟩,
   ⟨0xC1, 0x40, "罖罙罛罜罝罞罠罣罤罥罦罧罫罬罭罯罰罳罵罶罷罸罺罻罼罽罿羀羂羃羄羅羆羇羈羉羋羍羏羐羑羒羓羕羖羗羘羙羛羜羠羢羣羥羦羨義羪羫羬羭羮羱\ufffd羳羴羵羶羷羺羻羾翀"⟩,
   ⟨0xC1, 0x89, "翂翃翄翆翇翈翉翋翍翏翐翑習翓翖翗翙翚翛翜翝翞翢翣"⟩,
   ⟨0xC2, 0x40, "翤翧翨翪翫翬翭翯翲翴翵翶翷翸翹翺翽翾翿耂耇耈耉耊耎耏耑耓耚耛耝耞耟耡耣耤耫耬耭耮耯耰耲耴耹耺耼耾聀聁聄聅聇聈聉聎聏聐聑聓聕聖聗\ufffd聙聛聜聝聞聟聠聡聢"⟩,
   ⟨0xC2, 0x89, "聣聤聥聦聧聨聫聬聭聮聯聰聲聳聴聵聶職聸聹聺聻聼聽"⟩,
   ⟨0xC3, 0x40, "聾肁肂肅肈肊肍肎肏肐肑肒肔肕肗肙肞肣肦肧肨肬肰肳肵肶肸肹肻胅胇胈胉胊胋胏胐胑胒胓胔胕胘胟胠胢胣胦胮胵胷胹胻胾胿脀脁脃脄脅脇脈脋\ufffd脌脕脗脙脛脜脝脟脠"⟩,
   ⟨0xC3, 0x89, "脡脢脣脤脥脦脧脨脩脪脫脭脮脰脳脴脵脷脹脺脻脼脽脿"⟩,
   ⟨0xC4, 0x40, "腀腁腂腃腄腅腇腉腍腎腏腒腖腗腘腛腜腝腞腟腡腢腣腤腦腨腪腫腬腯腲腳腵腶腷腸膁膃膄膅膆膇膉膋膌膍膎膐膒膓膔膕膖膗膙膚膞膟膠膡膢膤膥\ufffd膧膩膫膬膭膮膯膰膱"⟩,
   ⟨0xC4, 0x89, "膲膴膵膶膷膸膹膼膽膾膿臄臅臇臈臉臋臍臎臏臐臑臒臓"⟩,
   ⟨0xC5, 0x40, "臔臕臖臗臘臙臚臛臜臝臞臟臠臡臢臤臥臦臨臩臫臮臯臰臱臲臵臶臷臸臹臺臽臿舃與興舉舊舋舎舏舑舓舕舖舗舘舙舚舝舠舤舥舦舧舩舮舲舺舼舽舿\ufffd艀艁艂艃艅艆艈艊艌"⟩,
   ⟨0xC5, 0x89, "艍艎艐艑艒艓艔艕艖艗艙艛艜艝艞艠艡艢艣艤艥艦艧艩"⟩,
   ⟨0xC6, 0x40, "艪艫艬艭艱艵艶艷艸艻艼芀芁芃芅芆芇芉芌芐芓芔芕芖芚芛芞芠芢芣芧芲芵芶芺芻芼芿苀苂苃苅苆苉苐苖苙苚苝苢苧苨苩苪苬苭苮苰苲苳苵苶苸\ufffd苺苼苽苾苿茀茊茋茍"⟩,
   ⟨0xC6, 0x89, "茐茒茓茖茘茙茝茞茟茠茡茢茣茤茥茦茩茪茮茰茲茷茻茽"⟩,
   ⟨0xC7, 0x40, "茾茿荁荂荄荅荈荊荋荌荍荎荓荕荖荗荘荙荝荢荰荱荲荳荴荵荶荹荺荾荿莀莁莂莃莄莇莈莊莋莌莍莏莐莑莔莕莖莗莙莚莝莟莡莢莣莤莥莦莧莬莭莮\ufffd莯莵莻莾莿菂菃菄菆"⟩,
   ⟨0xC7, 0x89, "菈菉菋菍菎菐菑菒菓菕菗菙菚菛菞菢菣菤菦菧菨菫菬菭"⟩,
   ⟨0xC8, 0x40, "菮華菳菴菵菶菷菺菻菼菾菿萀萂萅萇萈萉萊萐萒萓萔萕萖萗萙萚萛萞萟萠萡萢萣萩萪萫萬萭萮萯萰萲萳萴萵萶萷萹萺萻萾萿葀葁葂葃葄葅葇葈葉\ufffd葊葋葌葍葎葏葐葒葓"⟩,
   ⟨0xC8, 0x89, "葔葕葖葘葝葞葟葠葢葤葥葦葧葨葪葮葯葰葲葴葷葹葻葼"⟩,
   ⟨0xC9, 0x40, "葽葾葿蒀蒁蒃蒄蒅蒆蒊蒍蒏蒐蒑蒒蒓蒔蒕蒖蒘蒚蒛蒝蒞蒟蒠蒢蒣蒤蒥蒦蒧蒨蒩蒪蒫蒬蒭蒮蒰蒱蒳蒵蒶蒷蒻蒼蒾蓀蓂蓃蓅蓆蓇蓈蓋蓌蓎蓏蓒蓔蓕蓗\ufffd蓘蓙蓚蓛蓜蓞蓡蓢蓤"⟩,
   ⟨0xC9, 0x89, "蓧蓨蓩蓪蓫蓭蓮蓯蓱蓲蓳蓴蓵蓶蓷蓸蓹蓺蓻蓽蓾蔀蔁蔂"⟩,
   ⟨0xCA, 0x40, "蔃蔄蔅蔆蔇蔈蔉蔊蔋蔍蔎蔏蔐蔒蔔蔕蔖蔘蔙蔛蔜蔝蔞蔠蔢蔣蔤蔥蔦蔧蔨蔩蔪蔭蔮蔯蔰蔱蔲蔳蔴蔵蔶蔾蔿蕀蕁蕂蕄蕅蕆蕇蕋蕌蕍蕎蕏蕐蕑蕒蕓蕔蕕\ufffd蕗蕘蕚蕛蕜蕝蕟蕠蕡"⟩,
   ⟨0xCA, 0x89, "蕢蕣蕥蕦蕧蕩蕪蕫蕬蕭蕮蕯蕰蕱蕳蕵蕶蕷蕸蕼蕽蕿薀薁"⟩,
   ⟨0xCB, 0x40, "薂薃薆薈薉薊薋薌薍薎薐薑薒薓薔薕薖薗薘薙薚薝薞薟薠薡薢薣薥薦薧薩薫薬薭薱薲薳薴薵薶薸薺薻薼薽薾薿藀藂藃藄藅藆藇藈藊藋藌藍藎藑藒\ufffd藔藖藗藘藙藚藛藝藞"⟩,
   ⟨0xCB, 0x89, "藟藠藡藢藣藥藦藧藨藪藫藬藭藮藯藰藱藲藳藴藵藶藷藸"⟩,
   ⟨0xCC, 0x40, "藹藺藼藽藾蘀蘁蘂蘃蘄蘆蘇蘈蘉蘊蘋蘌蘍蘎蘏蘐蘒蘓蘔蘕蘗蘘蘙蘚蘛蘜蘝蘞蘟蘠蘡蘢蘣蘤蘥蘦蘨蘪蘫蘬蘭蘮蘯蘰蘱蘲蘳蘴蘵蘶蘷蘹蘺蘻蘽蘾蘿虀\ufffd虁虂虃虄虅虆虇虈虉"⟩,
   ⟨0xCC, 0x89, "虊虋虌虒虓處虖虗虘虙虛虜虝號虠虡虣虤虥虦虧虨虩虪"⟩,
   ⟨0xCD, 0x40, "虭虯虰虲虳虴虵虶虷虸蚃蚄蚅蚆蚇蚈蚉蚎蚏蚐蚑蚒蚔蚖蚗蚘蚙蚚蚛蚞蚟蚠蚡蚢蚥蚦蚫蚭蚮蚲蚳蚷蚸蚹蚻蚼蚽蚾蚿蛁蛂蛃蛅蛈蛌蛍蛒蛓蛕蛖蛗蛚蛜\ufffd蛝蛠蛡蛢蛣蛥蛦蛧蛨"⟩,
   ⟨0xCD, 0x89, "蛪蛫蛬蛯蛵蛶蛷蛺蛻蛼蛽蛿蜁蜄蜅蜆蜋蜌蜎蜏蜐蜑蜔蜖"⟩,
   ⟨0xCE, 0x40, "蜙蜛蜝蜟蜠蜤蜦蜧蜨蜪蜫蜬蜭蜯蜰蜲蜳蜵蜶蜸蜹蜺蜼蜽蝀蝁蝂蝃蝄蝅蝆蝊蝋蝍蝏蝐蝑蝒蝔蝕蝖蝘蝚蝛蝜蝝蝞蝟蝡蝢蝦蝧蝨蝩蝪蝫蝬蝭蝯蝱蝲蝳蝵\ufffd蝷蝸蝹蝺蝿螀螁螄螆"⟩,
   ⟨0xCE, 0x89, "螇螉螊螌螎螏螐螑螒螔螕螖螘螙螚螛螜螝螞螠螡螢螣螤"⟩,
   ⟨0xCF, 0x40, "螥螦螧螩螪螮螰螱螲螴螶螷螸螹螻螼螾螿蟁蟂蟃蟄蟅蟇蟈蟉蟌蟍蟎蟏蟐蟔蟕蟖蟗蟘蟙蟚蟜蟝蟞蟟蟡蟢蟣蟤蟦蟧蟨蟩蟫蟬蟭蟯蟰蟱蟲蟳蟴蟵蟶蟷蟸\ufffd蟺蟻蟼蟽蟿蠀蠁蠂蠄"⟩,
   ⟨0xCF, 0x89, "蠅蠆蠇蠈蠉蠋蠌蠍蠎蠏蠐蠑蠒蠔蠗蠘蠙蠚蠜蠝蠞蠟蠠蠣"⟩,
   ⟨0xD0, 0x40, "蠤蠥蠦蠧蠨蠩蠪蠫蠬蠭蠮蠯蠰蠱蠳蠴蠵蠶蠷蠸蠺蠻蠽蠾蠿衁衂衃衆衇衈衉衊衋衎衏衐衑衒術衕衖衘衚衛衜衝衞衟衠衦衧衪衭衯衱衳衴衵衶衸衹衺\ufffd衻衼袀袃袆袇袉袊袌"⟩,
   ⟨0xD0, 0x89, "袎袏袐袑袓袔袕袗袘袙袚袛袝袞袟袠袡袣袥袦袧袨袩袪"⟩,
   ⟨0xD1, 0x40, "袬袮袯袰袲袳袴袵袶袸袹袺袻袽袾袿裀裃裄裇裈裊裋裌裍裏裐裑裓裖裗裚裛補裝裞裠裡裦裧裩裪裫裬裭裮裯裲裵裶裷裺裻製裿褀褁褃褄褅褆複褈\ufffd褉褋褌褍褎褏褑褔褕"⟩,
   ⟨0xD1, 0x89, "褖褗褘褜褝褞褟褠褢褣褤褦褧褨褩褬褭褮褯褱褲褳褵褷"⟩,
   ⟨0xD2, 0x40, "褸褹褺褻褼褽褾褿襀襂襃襅襆襇襈襉襊襋襌襍襎襏襐襑襒襓襔襕襖襗襘襙襚襛襜襝襠襡襢襣襤襥襧襨襩襪襫襬襭襮襯襰襱襲襳襴襵襶襷襸襹襺襼\ufffd襽襾覀覂覄覅覇覈覉"⟩,
   ⟨0xD2, 0x89, "覊見覌覍覎規覐覑覒覓覔覕視覗覘覙覚覛覜覝覞覟覠覡"⟩,
   ⟨0xD3, 0x40, "覢覣覤覥覦覧覨覩親覫覬覭覮覯覰覱覲観覴覵覶覷覸覹覺覻覼覽覾覿觀觃觍觓觔觕觗觘觙觛觝觟觠觡觢觤觧觨觩觪觬觭觮觰觱觲觴觵觶觷觸觹觺\ufffd觻觼觽觾觿訁訂訃訄"⟩,
   ⟨0xD3, 0x89, "訅訆計訉訊訋訌訍討訏訐訑訒訓訔訕訖託記訙訚訛訜訝"⟩,
   ⟨0xD4, 0x40, "訞訟訠訡訢訣訤訥訦訧訨訩訪訫訬設訮訯訰許訲訳訴訵訶訷訸訹診註証訽訿詀詁詂詃詄詅詆詇詉詊詋詌詍詎詏詐詑詒詓詔評詖詗詘詙詚詛詜詝詞\ufffd詟詠詡詢詣詤詥試詧"⟩,
   ⟨0xD4, 0x89, "詨詩詪詫詬詭詮詯詰話該詳詴詵詶詷詸詺詻詼詽詾詿誀"⟩,
   ⟨0xD5, 0x40, "誁誂誃誄誅誆誇誈誋誌認誎誏誐誑誒誔誕誖誗誘誙誚誛誜誝語誟誠誡誢誣誤誥誦誧誨誩說誫説読誮誯誰誱課誳誴誵誶誷誸誹誺誻誼誽誾調諀諁諂\ufffd諃諄諅諆談諈諉諊請"⟩,
   ⟨0xD5, 0x89, "諌諍諎諏諐諑諒諓諔諕論諗諘諙諚諛諜諝諞諟諠諡諢諣"⟩,
   ⟨0xD6, 0x40, "諤諥諦諧諨諩諪諫諬諭諮諯諰諱諲諳諴諵諶諷諸諹諺諻諼諽諾諿謀謁謂謃謄謅謆謈謉謊謋謌謍謎謏謐謑謒謓謔謕謖謗謘謙謚講謜謝謞謟謠謡謢謣\ufffd謤謥謧謨謩謪謫謬謭"⟩,
   ⟨0xD6, 0x89, "謮謯謰謱謲謳謴謵謶謷謸謹謺謻謼謽謾謿譀譁譂譃譄譅"⟩,
   ⟨0xD7, 0x40, "譆譇譈證譊譋譌譍譎譏譐譑譒譓譔譕譖譗識譙譚譛譜譝譞譟譠譡譢譣譤譥譧譨譩譪譫譭譮譯議譱譲譳譴譵譶護譸譹譺譻譼譽譾譿讀讁讂讃讄讅讆\ufffd讇讈讉變讋讌讍讎讏"⟩,
   ⟨0xD7, 0x89, "讐讑讒讓讔讕讖讗讘讙讚讛讜讝讞讟讬讱讻诇诐诪谉谞"⟩,
   ⟨0xD8, 0x40, "谸谹谺谻谼谽谾谿豀豂豃豄豅豈豊豋豍豎豏豐豑豒豓豔豖豗豘豙豛豜豝豞豟豠豣豤豥豦豧豨豩豬豭豮豯豰豱豲豴豵豶豷豻豼豽豾豿貀貁貃貄貆貇\ufffd貈貋貍貎貏貐貑貒貓"⟩,
   ⟨0xD8, 0x89, "貕貖貗貙貚貛貜貝貞貟負財貢貣貤貥貦貧貨販貪貫責貭"⟩,
   ⟨0xD9, 0x40, "貮貯貰貱貲貳貴貵貶買貸貹貺費貼貽貾貿賀賁賂賃賄賅賆資賈賉賊賋賌賍賎賏賐賑賒賓賔賕賖賗賘賙賚賛賜賝賞賟賠賡賢賣賤賥賦賧賨賩質賫賬\ufffd賭賮賯賰賱賲賳賴賵"⟩,
   ⟨0xD9, 0x89, "賶賷賸賹賺賻購賽賾賿贀贁贂贃贄贅贆贇贈贉贊贋贌贍"⟩,
   ⟨0xDA, 0x40, "贎贏贐贑贒贓贔贕贖贗贘贙贚贛贜贠赑赒赗赟赥赨赩赪赬赮赯赱赲赸赹赺赻赼赽赾赿趀趂趃趆趇趈趉趌趍趎趏趐趒趓趕趖趗趘趙趚趛趜趝趞趠趡\ufffd趢趤趥趦趧趨趩趪趫"⟩,
   ⟨0xDA, 0x89, "趬趭趮趯趰趲趶趷趹趻趽跀跁跂跅跇跈跉跊跍跐跒跓跔"⟩,
   ⟨0xDB, 0x40, "跕跘跙跜跠跡跢跥跦跧跩跭跮跰跱跲跴跶跼跾跿踀踁踂踃踄踆踇踈踋踍踎踐踑踒踓踕踖踗踘踙踚踛踜踠踡踤踥踦踧踨踫踭踰踲踳踴踶踷踸踻踼踾\ufffd踿蹃蹅蹆蹌蹍蹎蹏蹐"⟩,
   ⟨0xDB, 0x89, "蹓蹔蹕蹖蹗蹘蹚蹛蹜蹝蹞蹟蹠蹡蹢蹣蹤蹥蹧蹨蹪蹫蹮蹱"⟩,
   ⟨0xDC, 0x40, "蹳蹵蹷蹸蹹蹺蹻蹽蹾躀躂躃躄躆躈躉躊躋躌躍躎躑躒躓躕躖躗躘躙躚躛躝躟躠躡躢躣躤躥躦躧躨躩躪躭躮躰躱躳躴躵躶躷躸躹躻躼躽躾躿軀軁軂\ufffd軃軄軅軆軇軈軉車軋"⟩,
   ⟨0xDC, 0x89, "軌軍軏軐軑軒軓軔軕軖軗軘軙軚軛軜軝軞軟軠軡転軣軤"⟩,
   ⟨0xDD, 0x40, "軥軦軧軨軩軪軫軬軭軮軯軰軱軲軳軴軵軶軷軸軹軺軻軼軽軾軿輀輁輂較輄輅輆輇輈載輊輋輌輍輎輏輐輑輒輓輔輕輖輗輘輙輚輛輜輝輞輟輠輡輢輣\ufffd輤輥輦輧輨輩輪輫輬"⟩,
   ⟨0xDD, 0x89, "輭輮輯輰輱輲輳輴輵輶輷輸輹輺輻輼輽輾輿轀轁轂轃轄"⟩,
   ⟨0xDE, 0x40, "轅轆轇轈轉轊轋轌轍轎轏轐轑轒轓轔轕轖轗轘轙轚轛轜轝轞轟轠轡轢轣轤轥轪辀辌辒辝辠辡辢辤辥辦辧辪辬辭辮辯農辳辴辵辷辸辺辻込辿迀迃迆\ufffd迉迊迋迌迍迏迒迖迗"⟩,
   ⟨0xDE, 0x89, "迚迠迡迣迧迬迯迱迲迴迵迶迺迻迼迾迿逇逈逌逎逓逕逘"⟩,
   ⟨0xDF, 0x40, "這逜連逤逥逧逨逩逪逫逬逰週進逳逴逷逹逺逽逿遀遃遅遆遈遉遊運遌過達違遖遙遚遜遝遞遟遠遡遤遦遧適遪遫遬遯遰遱遲遳遶遷選遹遺遻遼遾邁\ufffd還邅邆邇邉邊邌邍邎"⟩,
   ⟨0xDF, 0x89, "邏邐邒邔邖邘邚邜邞邟邠邤邥邧邨邩邫邭邲邷邼邽邿郀"⟩,
   ⟨0xE0, 0x40, "郂郃郆郈郉郋郌郍郒郔郕郖郘郙郚郞郟郠郣郤郥郩郪郬郮郰郱郲郳郵郶郷郹郺郻郼郿鄀鄁鄃鄅鄆鄇鄈鄉鄊鄋鄌鄍鄎鄏鄐鄑鄒鄓鄔鄕鄖鄗鄘鄚鄛鄜\ufffd鄝鄟鄠鄡鄤鄥鄦鄧鄨"⟩,
   ⟨0xE0, 0x89, "鄩鄪鄫鄬鄭鄮鄰鄲鄳鄴鄵鄶鄷鄸鄺鄻鄼鄽鄾鄿酀酁酂酄"⟩,
   ⟨0xE1, 0x40, "酅酇酈酑酓酔酕酖酘酙酛酜酟酠酦酧酨酫酭酳酺酻酼醀醁醂醃醄醆醈醊醎醏醓醔醕醖醗醘醙醜醝醞醟醠醡醤醥醦醧醨醩醫醬醰醱醲醳醶醷醸醹醻\ufffd醼醽醾醿釀釁釂釃釄"⟩,
   ⟨0xE1, 0x89, "釅釆釈釋釐釒釓釔釕釖釗釘釙釚釛針釞釟釠釡釢釣釤釥"⟩,
   ⟨0xE2, 0x40, "釦釧釨釩釪釫釬釭釮釯釰釱釲釳釴釵釶釷釸釹釺釻釼釽釾釿鈀鈁鈂鈃鈄鈅鈆鈇鈈鈉鈊鈋鈌鈍鈎鈏鈐鈑鈒鈓鈔鈕鈖鈗鈘鈙鈚鈛鈜鈝鈞鈟鈠鈡鈢鈣鈤\ufffd鈥鈦鈧鈨鈩鈪鈫鈬鈭"⟩,
   ⟨0xE2, 0x89, "鈮鈯鈰鈱鈲鈳鈴鈵鈶鈷鈸鈹鈺鈻鈼鈽鈾鈿鉀鉁鉂鉃鉄鉅"⟩,
   ⟨0xE3, 0x40, "鉆鉇鉈鉉鉊鉋鉌鉍鉎鉏鉐鉑鉒鉓鉔鉕鉖鉗鉘鉙鉚鉛鉜鉝鉞鉟鉠鉡鉢鉣鉤鉥鉦鉧鉨鉩鉪鉫鉬鉭鉮鉯鉰鉱鉲鉳鉵鉶鉷鉸鉹鉺鉻鉼鉽鉾鉿銀銁銂銃銄銅\ufffd銆銇銈銉銊銋銌銍銏"⟩,
   ⟨0xE3, 0x89, "銐銑銒銓銔銕銖銗銘銙銚銛銜銝銞銟銠銡銢銣銤銥銦銧"⟩,
   ⟨0xE4, 0x40, "銨銩銪銫銬銭銯銰銱銲銳銴銵銶銷銸銹銺銻銼銽銾銿鋀鋁鋂鋃鋄鋅鋆鋇鋉鋊鋋鋌鋍鋎鋏鋐鋑鋒鋓鋔鋕鋖鋗鋘鋙鋚鋛鋜鋝鋞鋟鋠鋡鋢鋣鋤鋥鋦鋧鋨\ufffd鋩鋪鋫鋬鋭鋮鋯鋰鋱"⟩,
   ⟨0xE4, 0x89, "鋲鋳鋴鋵鋶鋷鋸鋹鋺鋻鋼鋽鋾鋿錀錁錂錃錄錅錆錇錈錉"⟩,
   ⟨0xE5, 0x40, "錊錋錌錍錎錏錐錑錒錓錔錕錖錗錘錙錚錛錜錝錞錟錠錡錢錣錤錥錦錧錨錩錪錫錬錭錮錯錰錱録錳錴錵錶錷錸錹錺錻錼錽錿鍀鍁鍂鍃鍄鍅鍆鍇鍈鍉\ufffd鍊鍋鍌鍍鍎鍏鍐鍑鍒"⟩,
   ⟨0xE5, 0x89, "鍓鍔鍕鍖鍗鍘鍙鍚鍛鍜鍝鍞鍟鍠鍡鍢鍣鍤鍥鍦鍧鍨鍩鍫"⟩,
   ⟨0xE6, 0x40, "鍬鍭鍮鍯鍰鍱鍲鍳鍴鍵鍶鍷鍸鍹鍺鍻鍼鍽鍾鍿鎀鎁鎂鎃鎄鎅鎆鎇鎈鎉鎊鎋鎌鎍鎎鎐鎑鎒鎓鎔鎕鎖鎗鎘鎙鎚鎛鎜鎝鎞鎟鎠鎡鎢鎣鎤鎥鎦鎧鎨鎩鎪鎫\ufffd鎬鎭鎮鎯鎰鎱鎲鎳鎴"⟩,
   ⟨0xE6, 0x89, "鎵鎶鎷鎸鎹鎺鎻鎼鎽鎾鎿鏀鏁鏂鏃鏄鏅鏆鏇鏈鏉鏋鏌鏍"⟩,
   ⟨0xE7, 0x40, "鏎鏏鏐鏑鏒鏓鏔鏕鏗鏘鏙鏚鏛鏜鏝鏞鏟鏠鏡鏢鏣鏤鏥鏦鏧鏨鏩鏪鏫鏬鏭鏮鏯鏰鏱鏲鏳鏴鏵鏶鏷鏸鏹鏺鏻鏼鏽鏾鏿鐀鐁鐂鐃鐄鐅鐆鐇鐈鐉鐊鐋鐌鐍\ufffd鐎鐏鐐鐑鐒鐓鐔鐕鐖"⟩,
   ⟨0xE7, 0x89, "鐗鐘鐙鐚鐛鐜鐝鐞鐟鐠鐡鐢鐣鐤鐥鐦鐧鐨鐩鐪鐫鐬鐭鐮"⟩,
   ⟨0xE8, 0x40, "鐯鐰鐱鐲鐳鐴鐵鐶鐷鐸鐹鐺鐻鐼鐽鐿鑀鑁鑂鑃鑄鑅鑆鑇鑈鑉鑊鑋鑌鑍鑎鑏鑐鑑鑒鑓鑔鑕鑖鑗鑘鑙鑚鑛鑜鑝鑞鑟鑠鑡鑢鑣鑤鑥鑦鑧鑨鑩鑪鑬鑭鑮鑯\ufffd鑰鑱鑲鑳鑴鑵鑶鑷鑸"⟩,
   ⟨0xE8, 0x89, "鑹鑺鑻鑼鑽鑾鑿钀钁钂钃钄钑钖钘铇铏铓铔铚铦铻锜锠"⟩,
   ⟨0xE9, 0x40, "锧锳锽镃镈镋镕镚镠镮镴镵長镸镹镺镻镼镽镾門閁閂閃閄閅閆閇閈閉閊開閌閍閎閏閐閑閒間閔閕閖閗閘閙閚閛閜閝閞閟閠閡関閣閤閥閦閧閨閩閪\ufffd閫閬閭閮閯閰閱閲閳"⟩,
   ⟨0xE9, 0x89, "閴閵閶閷閸閹閺閻閼閽閾閿闀闁闂闃闄闅闆闇闈闉闊闋"⟩,
   ⟨0xEA, 0x40, "闌闍闎闏闐闑闒闓闔闕闖闗闘闙闚闛關闝闞闟闠闡闢闣闤闥闦闧闬闿阇阓阘阛阞阠阣阤阥阦阧阨阩阫阬阭阯阰阷阸阹阺阾陁陃陊陎陏陑陒陓陖陗\ufffd陘陙陚陜陝陞陠陣陥"⟩,
   ⟨0xEA, 0x89, "陦陫陭陮陯陰陱陳陸陹険陻陼陽陾陿隀隁隂隃隄隇隉隊"⟩,
   ⟨0xEB, 0x40, "隌階隑隒隓隕隖隚際隝隞隟隠隡隢隣隤隥隦隨隩險隫隬隭隮隯隱隲隴隵隷隸隺隻隿雂雃雈雊雋雐雑雓雔雖雗雘雙雚雛雜雝雞雟雡離難雤雥雦雧雫\ufffd雬雭雮雰雱雲雴雵雸"⟩,
   ⟨0xEB, 0x89, "雺電雼雽雿霂霃霅霊霋霌霐霑霒霔霕霗霘霙霚霛霝霟霠"⟩,
   ⟨0xEC, 0x40, "霡霢霣霤霥霦霧霨霩霫霬霮霯霱霳霴霵霶霷霺霻霼霽霿靀靁靂靃靄靅靆靇靈靉靊靋靌靍靎靏靐靑靔靕靗靘靚靜靝靟靣靤靦靧靨靪靫靬靭靮靯靰靱\ufffd靲靵靷靸靹靺靻靽靾"⟩,
   ⟨0xEC, 0x89, "靿鞀鞁鞂鞃鞄鞆鞇鞈鞉鞊鞌鞎鞏鞐鞓鞕鞖鞗鞙鞚鞛鞜鞝"⟩,
   ⟨0xED, 0x40, "鞞鞟鞡鞢鞤鞥鞦鞧鞨鞩鞪鞬鞮鞰鞱鞳鞵鞶鞷鞸鞹鞺鞻鞼鞽鞾鞿韀韁韂韃韄韅韆韇韈韉韊韋韌韍韎韏韐韑韒韓韔韕韖韗韘韙韚韛韜韝韞韟韠韡韢韣\ufffd韤韥韨韮韯韰韱韲韴"⟩,
   ⟨0xED, 0x89, "韷韸韹韺韻韼韽韾響頀頁頂頃頄項順頇須頉頊頋頌頍頎"⟩,
   ⟨0xEE, 0x40, "頏預頑頒頓頔頕頖頗領頙頚頛頜頝頞頟頠頡頢頣頤頥頦頧頨頩頪頫頬頭頮頯頰頱頲頳頴頵頶頷頸頹頺頻頼頽頾頿顀顁顂顃顄顅顆顇顈顉顊顋題額\ufffd顎顏顐顑顒顓顔顕顖"⟩,
   ⟨0xEE, 0x89, "顗願顙顚顛顜顝類顟顠顡顢顣顤顥顦顧顨顩顪顫顬顭顮"⟩,
   ⟨0xEF, 0x40, "顯顰顱顲顳顴颋颎颒颕颙颣風颩颪颫颬颭颮颯颰颱颲颳颴颵颶颷颸颹颺颻颼颽颾颿飀飁飂飃飄飅飆飇飈飉飊飋飌飍飏飐飔飖飗飛飜飝飠飡飢飣飤\ufffd飥飦飩飪飫飬飭飮飯"⟩,
   ⟨0xEF, 0x89, "飰飱飲飳飴飵飶飷飸飹飺飻飼飽飾飿餀餁餂餃餄餅餆餇"⟩,
   ⟨0xF0, 0x40, "餈餉養餋餌餎餏餑餒餓餔餕餖餗餘餙餚餛餜餝餞餟餠餡餢餣餤餥餦餧館餩餪餫餬餭餯餰餱餲餳餴餵餶餷餸餹餺餻餼餽餾餿饀饁饂饃饄饅饆饇饈饉\ufffd饊饋饌饍饎饏饐饑饒"⟩,
   ⟨0xF0, 0x89, "饓饖饗饘饙饚饛饜饝饞饟饠饡饢饤饦饳饸饹饻饾馂馃馉"⟩,
   ⟨0xF1, 0x40, "馌馎馚馛馜馝馞馟馠馡馢馣馤馦馧馩馪馫馬馭馮馯馰馱馲馳馴馵馶馷馸馹馺馻馼馽馾馿駀駁駂駃駄駅駆駇駈駉駊駋駌駍駎駏駐駑駒駓駔駕駖駗駘\ufffd駙駚駛駜駝駞駟駠駡"⟩,
   ⟨0xF1, 0x89, "駢駣駤駥駦駧駨駩駪駫駬駭駮駯駰駱駲駳駴駵駶駷駸駹"⟩,
   ⟨0xF2, 0x40, "駺駻駼駽駾駿騀騁騂騃騄騅騆騇騈騉騊騋騌騍騎騏騐騑騒験騔騕騖騗騘騙騚騛騜騝騞騟騠騡騢騣騤騥騦騧騨騩騪騫騬騭騮騯騰騱騲騳騴騵騶騷騸\ufffd騹騺騻騼騽騾騿驀驁"⟩,
   ⟨0xF2, 0x89, "驂驃驄驅驆驇驈驉驊驋驌驍驎驏驐驑驒驓驔驕驖驗驘驙"⟩,
   ⟨0xF3, 0x40, "驚驛驜驝驞驟驠驡驢驣驤驥驦驧驨驩驪驫驲骃骉骍骎骔骕骙骦骩骪骫骬骭骮骯骲骳骴骵骹骻骽骾骿髃髄髆髇髈髉髊髍髎髏髐髒體髕髖髗髙髚髛髜\ufffd髝髞髠髢髣髤髥髧髨"⟩,
   ⟨0xF3, 0x89, "髩髪髬髮髰髱髲髳髴髵髶髷髸髺髼髽髾髿鬀鬁鬂鬄鬅鬆"⟩,
   ⟨0xF4, 0x40, "鬇鬉鬊鬋鬌鬍鬎鬐鬑鬒鬔鬕鬖鬗鬘鬙鬚鬛鬜鬝鬞鬠鬡鬢鬤鬥鬦鬧鬨鬩鬪鬫鬬鬭鬮鬰鬱鬳鬴鬵鬶鬷鬸鬹鬺鬽鬾鬿魀魆魊魋魌魎魐魒魓魕魖魗魘魙魚\ufffd魛魜魝魞魟魠魡魢魣"⟩,
   ⟨0xF4, 0x89, "魤魥魦魧魨魩魪魫魬魭魮魯魰魱魲魳魴魵魶魷魸魹魺魻"⟩,
   ⟨0xF5, 0x40, "魼魽魾魿鮀鮁鮂鮃鮄鮅鮆鮇鮈鮉鮊鮋鮌鮍鮎鮏鮐鮑鮒鮓鮔鮕鮖鮗鮘鮙鮚鮛鮜鮝鮞鮟鮠鮡鮢鮣鮤鮥鮦鮧鮨鮩鮪鮫鮬鮭鮮鮯鮰鮱鮲鮳鮴鮵鮶鮷鮸鮹鮺\ufffd鮻鮼鮽鮾鮿鯀鯁鯂鯃"⟩,
   ⟨0xF5, 0x89, "鯄鯅鯆鯇鯈鯉鯊鯋鯌鯍鯎鯏鯐鯑鯒鯓鯔鯕鯖鯗鯘鯙鯚鯛"⟩,
   ⟨0xF6, 0x40, "鯜鯝鯞鯟鯠鯡鯢鯣鯤鯥鯦鯧鯨鯩鯪鯫鯬鯭鯮鯯鯰鯱鯲鯳鯴鯵鯶鯷鯸鯹鯺鯻鯼鯽鯾鯿鰀鰁鰂鰃鰄鰅鰆鰇鰈鰉鰊鰋鰌鰍鰎鰏鰐鰑鰒鰓鰔鰕鰖鰗鰘鰙鰚\ufffd鰛鰜鰝鰞鰟鰠鰡鰢鰣"⟩,
   ⟨0xF6, 0x89, "鰤鰥鰦鰧鰨鰩鰪鰫鰬鰭鰮鰯鰰鰱鰲鰳鰴鰵鰶鰷鰸鰹鰺鰻"⟩,
   ⟨0xF7, 0x40, "鰼鰽鰾鰿鱀鱁鱂鱃鱄鱅鱆鱇鱈鱉鱊鱋鱌鱍鱎鱏鱐鱑鱒鱓鱔鱕鱖鱗鱘鱙鱚鱛鱜鱝鱞鱟鱠鱡鱢鱣鱤鱥鱦鱧鱨鱩鱪鱫鱬鱭鱮鱯鱰鱱鱲鱳鱴鱵鱶鱷鱸鱹鱺\ufffd鱻鱽鱾鲀鲃鲄鲉鲊鲌"⟩,
   ⟨0xF7, 0x89, "鲏鲓鲖鲗鲘鲙鲝鲪鲬鲯鲹鲾鲿鳀鳁鳂鳈鳉鳑鳒鳚鳛鳠鳡"⟩,
   ⟨0xF8, 0x40, "鳣鳤鳥鳦鳧鳨鳩鳪鳫鳬鳭鳮鳯鳰鳱鳲鳳鳴鳵鳶鳷鳸鳹鳺鳻鳼鳽鳾鳿鴀鴁鴂鴃鴄鴅鴆鴇鴈鴉鴊鴋鴌鴍鴎鴏鴐鴑鴒鴓鴔鴕鴖鴗鴘鴙鴚鴛鴜鴝鴞鴟鴠鴡\ufffd鴢鴣鴤鴥鴦鴧鴨鴩鴪"⟩,
   ⟨0xF8, 0x89, "鴫鴬鴭鴮鴯鴰鴱鴲鴳鴴鴵鴶鴷鴸鴹鴺鴻鴼鴽鴾鴿鵀鵁鵂"⟩,
   ⟨0xF9, 0x40, "鵃鵄鵅鵆鵇鵈鵉鵊鵋鵌鵍鵎鵏鵐鵑鵒鵓鵔鵕鵖鵗鵘鵙鵚鵛鵜鵝鵞鵟鵠鵡鵢鵣鵤鵥鵦鵧鵨鵩鵪鵫鵬鵭鵮鵯鵰鵱鵲鵳鵴鵵鵶鵷鵸鵹鵺鵻鵼鵽鵾鵿鶀鶁\ufffd鶂鶃鶄鶅鶆鶇鶈鶉鶊"⟩,
   ⟨0xF9, 0x89, "鶋鶌鶍鶎鶏鶐鶑鶒鶓鶔鶕鶖鶗鶘鶙鶚鶛鶜鶝鶞鶟鶠鶡鶢"⟩,
   ⟨0xFA, 0x40, "鶣鶤鶥鶦鶧鶨鶩鶪鶫鶬鶭鶮鶯鶰鶱鶲鶳鶴鶵鶶鶷鶸鶹鶺鶻鶼鶽鶾鶿鷀鷁鷂鷃鷄鷅鷆鷇鷈鷉鷊鷋鷌鷍鷎鷏鷐鷑鷒鷓鷔鷕鷖鷗鷘鷙鷚鷛鷜鷝鷞鷟鷠鷡\ufffd鷢鷣鷤鷥鷦鷧鷨鷩鷪"⟩,
   ⟨0xFA, 0x89, "鷫鷬鷭鷮鷯鷰鷱鷲鷳鷴鷵鷶鷷鷸鷹鷺鷻鷼鷽鷾鷿鸀鸁鸂"⟩,
   ⟨0xFB, 0x40, "鸃鸄鸅鸆鸇鸈鸉鸊鸋鸌鸍鸎鸏鸐鸑鸒鸓鸔鸕鸖鸗鸘鸙鸚鸛鸜鸝鸞鸤鸧鸮鸰鸴鸻鸼鹀鹍鹐鹒鹓鹔鹖鹙鹝鹟鹠鹡鹢鹥鹮鹯鹲鹴鹵鹶鹷鹸鹹鹺鹻鹼鹽麀\ufffd麁麃麄麅麆麉麊麌麍"⟩,
   ⟨0xFB, 0x89, "麎麏麐麑麔麕麖麗麘麙麚麛麜麞麠麡麢麣麤麥麧麨麩麪"⟩,
   ⟨0xFC, 0x40, "麫麬麭麮麯麰麱麲麳麵麶麷麹麺麼麿黀黁黂黃黅黆黇黈黊黋黌黐黒黓黕黖黗黙黚點黡黣黤黦黨黫黬黭黮黰黱黲黳黴黵黶黷黸黺黽黿鼀鼁鼂鼃鼄鼅\ufffd鼆鼇鼈鼉鼊鼌鼏鼑鼒"⟩,
   ⟨0xFC, 0x89, "鼔鼕鼖鼘鼚鼛鼜鼝鼞鼟鼡鼣鼤鼥鼦鼧鼨鼩鼪鼫鼭鼮鼰鼱"⟩,
   ⟨0xFD, 0x40, "鼲鼳鼴鼵鼶鼸鼺鼼鼿齀齁齂齃齅齆齇齈齉齊齋齌齍齎齏齒齓齔齕齖齗齘齙齚齛齜齝齞齟齠齡齢齣齤齥齦齧齨齩齪齫齬齭齮齯齰齱齲齳齴齵齶齷齸\ufffd齹齺齻齼齽齾龁龂龍"⟩,
   ⟨0xFD, 0x89, "龎龏龐龑龒龓龔龕龖龗龘龜龝龞龡龢龣龤龥郎凉秊裏隣"⟩, ⟨0xFE, 0x40, "兀嗀﨎﨏﨑﨓﨔礼﨟蘒﨡﨣﨤﨧﨨﨩"⟩]

/-- The pairs that the second extension, GB 18030, adds. -/
def laterRuns : List PairRun :=
  [⟨0xA1, 0x40, 0x7E, 0xE4C6⟩, ⟨0xA1, 0x80, 0xA0, 0xE505⟩, ⟨0xA2, 0x40, 0x7E, 0xE526⟩,
   ⟨0xA2, 0x80, 0xA0, 0xE565⟩, ⟨0xA2, 0xAB, 0xB0, 0xE766⟩, ⟨0xA2, 0xE3, 0xE3, 0x20AC⟩,
   ⟨0xA2, 0xE4, 0xE4, 0xE76D⟩, ⟨0xA2, 0xEF, 0xF0, 0xE76E⟩, ⟨0xA2, 0xFD, 0xFE, 0xE770⟩,
   ⟨0xA3, 0x40, 0x7E, 0xE586⟩, ⟨0xA3, 0x80, 0xA0, 0xE5C5⟩, ⟨0xA4, 0x40, 0x7E, 0xE5E6⟩,
   ⟨0xA4, 0x80, 0xA0, 0xE625⟩, ⟨0xA4, 0xF4, 0xFE, 0xE772⟩, ⟨0xA5, 0x40, 0x7E, 0xE646⟩,
   ⟨0xA5, 0x80, 0xA0, 0xE685⟩, ⟨0xA5, 0xF7, 0xFE, 0xE77D⟩, ⟨0xA6, 0x40, 0x7E, 0xE6A6⟩,
   ⟨0xA6, 0x80, 0xA0, 0xE6E5⟩, ⟨0xA6, 0xB9, 0xC0, 0xE785⟩, ⟨0xA6, 0xD9, 0xDF, 0xE78D⟩,
   ⟨0xA6, 0xEC, 0xED, 0xE794⟩, ⟨0xA6, 0xF3, 0xF3, 0xE796⟩, ⟨0xA6, 0xF6, 0xFE, 0xE797⟩,
   ⟨0xA7, 0x40, 0x7E, 0xE706⟩, ⟨0xA7, 0x80, 0xA0, 0xE745⟩, ⟨0xA7, 0xC2, 0xD0, 0xE7A0⟩,
   ⟨0xA7, 0xF2, 0xFE, 0xE7AF⟩, ⟨0xA8, 0x96, 0xA0, 0xE7BC⟩, ⟨0xA8, 0xBC, 0xBC, 0xE7C7⟩,
   ⟨0xA8, 0xBF, 0xBF, 0x1F9⟩, ⟨0xA8, 0xC1, 0xC4, 0xE7C9⟩, ⟨0xA8, 0xEA, 0xFE, 0xE7CD⟩,
   ⟨0xA9, 0x58, 0x58, 0xE7E2⟩, ⟨0xA9, 0x5B, 0x5B, 0xE7E3⟩, ⟨0xA9, 0x5D, 0x5F, 0xE7E4⟩,
   ⟨0xA9, 0x89, 0x89, 0x303E⟩, ⟨0xA9, 0x8A, 0x95, 0x2FF0⟩, ⟨0xA9, 0x97, 0xA3, 0xE7F4⟩,
   ⟨0xA9, 0xF0, 0xFE, 0xE801⟩, ⟨0xAA, 0xA1, 0xFE, 0xE000⟩, ⟨0xAB, 0xA1, 0xFE, 0xE05E⟩,
   ⟨0xAC, 0xA1, 0xFE, 0xE0BC⟩, ⟨0xAD, 0xA1, 0xFE, 0xE11A⟩, ⟨0xAE, 0xA1, 0xFE, 0xE178⟩,
   ⟨0xAF, 0xA1, 0xFE, 0xE1D6⟩, ⟨0xD7, 0xFA, 0xFE, 0xE810⟩, ⟨0xF8, 0xA1, 0xFE, 0xE234⟩,
   ⟨0xF9, 0xA1, 0xFE, 0xE292⟩, ⟨0xFA, 0xA1, 0xFE, 0xE2F0⟩, ⟨0xFB, 0xA1, 0xFE, 0xE34E⟩,
   ⟨0xFC, 0xA1, 0xFE, 0xE3AC⟩, ⟨0xFD, 0xA1, 0xFE, 0xE40A⟩, ⟨0xFE, 0x50, 0x50, 0x2E81⟩,
   ⟨0xFE, 0x51, 0x53, 0xE816⟩, ⟨0xFE, 0x54, 0x54, 0x2E84⟩, ⟨0xFE, 0x55, 0x55, 0x3473⟩,
   ⟨0xFE, 0x56, 0x56, 0x3447⟩, ⟨0xFE, 0x57, 0x57, 0x2E88⟩, ⟨0xFE, 0x58, 0x58, 0x2E8B⟩,
   ⟨0xFE, 0x59, 0x59, 0xE81E⟩, ⟨0xFE, 0x5A, 0x5A, 0x359E⟩, ⟨0xFE, 0x5B, 0x5B, 0x361A⟩,
   ⟨0xFE, 0x5C, 0x5C, 0x360E⟩, ⟨0xFE, 0x5D, 0x5D, 0x2E8C⟩, ⟨0xFE, 0x5E, 0x5E, 0x2E97⟩,
   ⟨0xFE, 0x5F, 0x5F, 0x396E⟩, ⟨0xFE, 0x60, 0x60, 0x3918⟩, ⟨0xFE, 0x61, 0x61, 0xE826⟩,
   ⟨0xFE, 0x62, 0x62, 0x39CF⟩, ⟨0xFE, 0x63, 0x63, 0x39DF⟩, ⟨0xFE, 0x64, 0x64, 0x3A73⟩,
   ⟨0xFE, 0x65, 0x65, 0x39D0⟩, ⟨0xFE, 0x66, 0x67, 0xE82B⟩, ⟨0xFE, 0x68, 0x68, 0x3B4E⟩,
   ⟨0xFE, 0x69, 0x69, 0x3C6E⟩, ⟨0xFE, 0x6A, 0x6A, 0x3CE0⟩, ⟨0xFE, 0x6B, 0x6B, 0x2EA7⟩,
   ⟨0xFE, 0x6C, 0x6D, 0xE831⟩, ⟨0xFE, 0x6E, 0x6E, 0x2EAA⟩, ⟨0xFE, 0x6F, 0x6F, 0x4056⟩,
   ⟨0xFE, 0x70, 0x70, 0x415F⟩, ⟨0xFE, 0x71, 0x71, 0x2EAE⟩, ⟨0xFE, 0x72, 0x72, 0x4337⟩,
   ⟨0xFE, 0x73, 0x73, 0x2EB3⟩, ⟨0xFE, 0x74, 0x75, 0x2EB6⟩, ⟨0xFE, 0x76, 0x76, 0xE83B⟩,
   ⟨0xFE, 0x77, 0x77, 0x43B1⟩, ⟨0xFE, 0x78, 0x78, 0x43AC⟩, ⟨0xFE, 0x79, 0x79, 0x2EBB⟩,
   ⟨0xFE, 0x7A, 0x7A, 0x43DD⟩, ⟨0xFE, 0x7B, 0x7B, 0x44D6⟩, ⟨0xFE, 0x7C, 0x7C, 0x4661⟩,
   ⟨0xFE, 0x7D, 0x7D, 0x464C⟩, ⟨0xFE, 0x7E, 0x7E, 0xE843⟩, ⟨0xFE, 0x80, 0x80, 0x4723⟩,
   ⟨0xFE, 0x81, 0x81, 0x4729⟩, ⟨0xFE, 0x82, 0x82, 0x477C⟩, ⟨0xFE, 0x83, 0x83, 0x478D⟩,
   ⟨0xFE, 0x84, 0x84, 0x2ECA⟩, ⟨0xFE, 0x85, 0x85, 0x4947⟩, ⟨0xFE, 0x86, 0x86, 0x497A⟩,
   ⟨0xFE, 0x87, 0x87, 0x497D⟩, ⟨0xFE, 0x88, 0x89, 0x4982⟩, ⟨0xFE, 0x8A, 0x8B, 0x4985⟩,
   ⟨0xFE, 0x8C, 0x8C, 0x499F⟩, ⟨0xFE, 0x8D, 0x8D, 0x499B⟩, ⟨0xFE, 0x8E, 0x8E, 0x49B7⟩,
   ⟨0xFE, 0x8F, 0x8F, 0x49B6⟩, ⟨0xFE, 0x90, 0x91, 0xE854⟩, ⟨0xFE, 0x92, 0x92, 0x4CA3⟩,
   ⟨0xFE, 0x93, 0x95, 0x4C9F⟩, ⟨0xFE, 0x96, 0x96, 0x4C77⟩, ⟨0xFE, 0x97, 0x97, 0x4CA2⟩,
   ⟨0xFE, 0x98, 0x9E, 0x4D13⟩, ⟨0xFE, 0x9F, 0x9F, 0x4DAE⟩, ⟨0xFE, 0xA0, 0xA0, 0xE864⟩,
   ⟨0xFE, 0xA1, 0xFE, 0xE468⟩]

/-- Sequences of four bytes, by their number, whose code points are consecutive. -/
structure FourByteRun where
  first : Nat
  last : Nat
  codePoint : Nat

/-- The sequences of four bytes below U+10000. -/
def fourByteRuns : List FourByteRun :=
  [⟨0, 35, 0x80⟩, ⟨36, 37, 0xA5⟩, ⟨38, 44, 0xA9⟩, ⟨45, 49, 0xB2⟩, ⟨50, 80, 0xB8⟩, ⟨81, 88, 0xD8⟩,
   ⟨89, 94, 0xE2⟩, ⟨95, 95, 0xEB⟩, ⟨96, 99, 0xEE⟩, ⟨100, 102, 0xF4⟩, ⟨103, 103, 0xF8⟩,
   ⟨104, 104, 0xFB⟩, ⟨105, 108, 0xFD⟩, ⟨109, 125, 0x102⟩, ⟨126, 132, 0x114⟩, ⟨133, 147, 0x11C⟩,
   ⟨148, 171, 0x12C⟩, ⟨172, 174, 0x145⟩, ⟨175, 178, 0x149⟩, ⟨179, 207, 0x14E⟩, ⟨208, 305, 0x16C⟩,
   ⟨306, 306, 0x1CF⟩, ⟨307, 307, 0x1D1⟩, ⟨308, 308, 0x1D3⟩, ⟨309, 309, 0x1D5⟩, ⟨310, 310, 0x1D7⟩,
   ⟨311, 311, 0x1D9⟩, ⟨312, 312, 0x1DB⟩, ⟨313, 340, 0x1DD⟩, ⟨341, 427, 0x1FA⟩, ⟨428, 442, 0x252⟩,
   ⟨443, 543, 0x262⟩, ⟨544, 544, 0x2C8⟩, ⟨545, 557, 0x2CC⟩, ⟨558, 740, 0x2DA⟩, ⟨741, 741, 0x3A2⟩,
   ⟨742, 748, 0x3AA⟩, ⟨749, 749, 0x3C2⟩, ⟨750, 804, 0x3CA⟩, ⟨805, 818, 0x402⟩, ⟨819, 819, 0x450⟩,
   ⟨820, 7921, 0x452⟩, ⟨7922, 7923, 0x2011⟩, ⟨7924, 7924, 0x2017⟩, ⟨7925, 7926, 0x201A⟩,
   ⟨7927, 7933, 0x201E⟩, ⟨7934, 7942, 0x2027⟩, ⟨7943, 7943, 0x2031⟩, ⟨7944, 7944, 0x2034⟩,
   ⟨7945, 7949, 0x2036⟩, ⟨7950, 8061, 0x203C⟩, ⟨8062, 8147, 0x20AD⟩, ⟨8148, 8148, 0x2104⟩,
   ⟨8149, 8151, 0x2106⟩, ⟨8152, 8163, 0x210A⟩, ⟨8164, 8173, 0x2117⟩, ⟨8174, 8235, 0x2122⟩,
   ⟨8236, 8239, 0x216C⟩, ⟨8240, 8261, 0x217A⟩, ⟨8262, 8263, 0x2194⟩, ⟨8264, 8373, 0x219A⟩,
   ⟨8374, 8379, 0x2209⟩, ⟨8380, 8380, 0x2210⟩, ⟨8381, 8383, 0x2212⟩, ⟨8384, 8387, 0x2216⟩,
   ⟨8388, 8389, 0x221B⟩, ⟨8390, 8391, 0x2221⟩, ⟨8392, 8392, 0x2224⟩, ⟨8393, 8393, 0x2226⟩,
   ⟨8394, 8395, 0x222C⟩, ⟨8396, 8400, 0x222F⟩, ⟨8401, 8405, 0x2238⟩, ⟨8406, 8415, 0x223E⟩,
   ⟨8416, 8418, 0x2249⟩, ⟨8419, 8423, 0x224D⟩, ⟨8424, 8436, 0x2253⟩, ⟨8437, 8438, 0x2262⟩,
   ⟨8439, 8444, 0x2268⟩, ⟨8445, 8481, 0x2270⟩, ⟨8482, 8484, 0x2296⟩, ⟨8485, 8495, 0x229A⟩,
   ⟨8496, 8520, 0x22A6⟩, ⟨8521, 8602, 0x22C0⟩, ⟨8603, 8935, 0x2313⟩, ⟨8936, 8945, 0x246A⟩,
   ⟨8946, 9045, 0x249C⟩, ⟨9046, 9049, 0x254C⟩, ⟨9050, 9062, 0x2574⟩, ⟨9063, 9065, 0x2590⟩,
   ⟨9066, 9075, 0x2596⟩, ⟨9076, 9091, 0x25A2⟩, ⟨9092, 9099, 0x25B4⟩, ⟨9100, 9107, 0x25BE⟩,
   ⟨9108, 9110, 0x25C8⟩, ⟨9111, 9112, 0x25CC⟩, ⟨9113, 9130, 0x25D0⟩, ⟨9131, 9161, 0x25E6⟩,
   ⟨9162, 9163, 0x2607⟩, ⟨9164, 9217, 0x260A⟩, ⟨9218, 9218, 0x2641⟩, ⟨9219, 11328, 0x2643⟩,
   ⟨11329, 11330, 0x2E82⟩, ⟨11331, 11333, 0x2E85⟩, ⟨11334, 11335, 0x2E89⟩, ⟨11336, 11345, 0x2E8D⟩,
   ⟨11346, 11360, 0x2E98⟩, ⟨11361, 11362, 0x2EA8⟩, ⟨11363, 11365, 0x2EAB⟩, ⟨11366, 11369, 0x2EAF⟩,
   ⟨11370, 11371, 0x2EB4⟩, ⟨11372, 11374, 0x2EB8⟩, ⟨11375, 11388, 0x2EBC⟩, ⟨11389, 11681, 0x2ECB⟩,
   ⟨11682, 11685, 0x2FFC⟩, ⟨11686, 11686, 0x3004⟩, ⟨11687, 11691, 0x3018⟩, ⟨11692, 11693, 0x301F⟩,
   ⟨11694, 11713, 0x302A⟩, ⟨11714, 11715, 0x303F⟩, ⟨11716, 11722, 0x3094⟩, ⟨11723, 11724, 0x309F⟩,
   ⟨11725, 11729, 0x30F7⟩, ⟨11730, 11735, 0x30FF⟩, ⟨11736, 11981, 0x312A⟩, ⟨11982, 11988, 0x322A⟩,
   ⟨11989, 12101, 0x3232⟩, ⟨12102, 12335, 0x32A4⟩, ⟨12336, 12347, 0x3390⟩, ⟨12348, 12349, 0x339F⟩,
   ⟨12350, 12383, 0x33A2⟩, ⟨12384, 12392, 0x33C5⟩, ⟨12393, 12394, 0x33CF⟩, ⟨12395, 12396, 0x33D3⟩,
   ⟨12397, 12509, 0x33D6⟩, ⟨12510, 12552, 0x3448⟩, ⟨12553, 12850, 0x3474⟩, ⟨12851, 12961, 0x359F⟩,
   ⟨12962, 12972, 0x360F⟩, ⟨12973, 13737, 0x361B⟩, ⟨13738, 13822, 0x3919⟩, ⟨13823, 13918, 0x396F⟩,
   ⟨13919, 13932, 0x39D1⟩, ⟨13933, 14079, 0x39E0⟩, ⟨14080, 14297, 0x3A74⟩, ⟨14298, 14584, 0x3B4F⟩,
   ⟨14585, 14697, 0x3C6F⟩, ⟨14698, 15582, 0x3CE1⟩, ⟨15583, 15846, 0x4057⟩, ⟨15847, 16317, 0x4160⟩,
   ⟨16318, 16433, 0x4338⟩, ⟨16434, 16437, 0x43AD⟩, ⟨16438, 16480, 0x43B2⟩, ⟨16481, 16728, 0x43DE⟩,
   ⟨16729, 17101, 0x44D7⟩, ⟨17102, 17121, 0x464D⟩, ⟨17122, 17314, 0x4662⟩, ⟨17315, 17319, 0x4724⟩,
   ⟨17320, 17401, 0x472A⟩, ⟨17402, 17417, 0x477D⟩, ⟨17418, 17858, 0x478E⟩, ⟨17859, 17908, 0x4948⟩,
   ⟨17909, 17910, 0x497B⟩, ⟨17911, 17914, 0x497E⟩, ⟨17915, 17915, 0x4984⟩, ⟨17916, 17935, 0x4987⟩,
   ⟨17936, 17938, 0x499C⟩, ⟨17939, 17960, 0x49A0⟩, ⟨17961, 18663, 0x49B8⟩, ⟨18664, 18702, 0x4C78⟩,
   ⟨18703, 18813, 0x4CA4⟩, ⟨18814, 18961, 0x4D1A⟩, ⟨18962, 19042, 0x4DAF⟩, ⟨19043, 33468, 0x9FA6⟩,
   ⟨33469, 33469, 0xE76C⟩, ⟨33470, 33470, 0xE7C8⟩, ⟨33471, 33483, 0xE7E7⟩, ⟨33484, 33484, 0xE815⟩,
   ⟨33485, 33489, 0xE819⟩, ⟨33490, 33496, 0xE81F⟩, ⟨33497, 33500, 0xE827⟩, ⟨33501, 33504, 0xE82D⟩,
   ⟨33505, 33512, 0xE833⟩, ⟨33513, 33519, 0xE83C⟩, ⟨33520, 33535, 0xE844⟩, ⟨33536, 33549, 0xE856⟩,
   ⟨33550, 37844, 0xE865⟩, ⟨37845, 37920, 0xF92D⟩, ⟨37921, 37947, 0xF97A⟩, ⟨37948, 38028, 0xF996⟩,
   ⟨38029, 38037, 0xF9E8⟩, ⟨38038, 38063, 0xF9F2⟩, ⟨38064, 38064, 0xFA10⟩, ⟨38065, 38065, 0xFA12⟩,
   ⟨38066, 38068, 0xFA15⟩, ⟨38069, 38074, 0xFA19⟩, ⟨38075, 38075, 0xFA22⟩, ⟨38076, 38077, 0xFA25⟩,
   ⟨38078, 39107, 0xFA2A⟩, ⟨39108, 39108, 0xFE32⟩, ⟨39109, 39112, 0xFE45⟩, ⟨39113, 39113, 0xFE53⟩,
   ⟨39114, 39114, 0xFE58⟩, ⟨39115, 39115, 0xFE67⟩, ⟨39116, 39264, 0xFE6C⟩, ⟨39265, 39393, 0xFF5F⟩,
   ⟨39394, 39419, 0xFFE6⟩]

end QuorumGate.Text.GuoBiao
